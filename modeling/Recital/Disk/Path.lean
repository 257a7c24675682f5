/-
# Paths

A path is a text whose components are separated by `/`.  The extension of a path
starts at the last dot of its last component, unless only dots stand before that
dot in the component.
-/

namespace Recital
namespace Path

/-- A text around its last `/`: what stands before and with it, and what stands
behind it. -/
def splitLast (path : List Char) : List Char × List Char :=
  let base := (path.reverse.takeWhile (· != '/')).reverse
  (path.take (path.length - base.length), base)

/-- The last component of a path. -/
def baseName (path : String) : String := String.ofList (splitLast path.toList).2

/-- What stands before the last component, without the slashes at its end, unless
it is made of slashes alone. -/
def directory (path : String) : String :=
  let head := (splitLast path.toList).1
  let trimmed := (head.reverse.dropWhile (· == '/')).reverse
  String.ofList (if trimmed.isEmpty then head else trimmed)

/-- The last component without its extension, and the extension with its dot. -/
def splitBase (base : List Char) : List Char × List Char :=
  let behind := (base.reverse.takeWhile (· != '.')).reverse
  let stem := base.take (base.length - behind.length - 1)
  if base.contains '.' && stem.any (· != '.') then (stem, '.' :: behind) else (base, [])

/-- A path without its extension. -/
def withoutExtension (path : String) : String :=
  let (head, base) := splitLast path.toList
  String.ofList (head ++ (splitBase base).1)

/-- The components of a path. -/
def components (path : String) : List String :=
  (path.toList.splitOn '/').map String.ofList

end Path
end Recital
