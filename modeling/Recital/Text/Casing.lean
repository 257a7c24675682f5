/-
# Upper and lower case

The full case maps: a character may become several (`ß` is `SS` in upper case,
`İ` is `i` with a dot above in lower case), and one of them depends on its
neighbours.  A capital sigma that ends a word, which is to say that a letter
stands before it and none after it once ignorable characters are looked
through, becomes `ς` and every other one `σ`.
-/

import Recital.Text.CaseTables
import Recital.Words

namespace Recital
namespace Text

/-- The image of a code point under a case map given by its two tables. -/
def image (shifts : Shifts) (expansions : List (Nat × List Nat)) (c : CodePoint) : Words :=
  match expansions.lookup c.toNat with
  | some codes => codes.map .ofNat
  | none => [.ofNat (shifts.map c.toNat)]

/-- A code point in upper case. -/
def upperPoint (c : CodePoint) : Words :=
  if c.toNat < 0x80 then [c.readable.toUpper] else image upperShifts upperExpansions c

/-- A code point in lower case, apart from what its neighbours decide. -/
def lowerPoint (c : CodePoint) : Words :=
  if c.toNat < 0x80 then [c.readable.toLower] else image lowerShifts lowerExpansions c

/-- Whether the nearest code point that is not ignorable is a letter with case. -/
def meetsLetter (w : Words) : Bool :=
  match w.dropWhile fun c => ignorable.covers c.toNat with
  | c :: _ => cased.covers c.toNat
  | [] => false

/-- The words `after` in lower case, where `before` precedes them, last code point
first. -/
def lowerFrom (before : Words) : Words → Words
  | [] => []
  | c :: after =>
    let image : Words :=
      if c = 'Σ' then if meetsLetter before && !meetsLetter after then "ς" else "σ"
      else lowerPoint c
    image ++ lowerFrom (c :: before) after

/-- Words in upper case. -/
def upper (w : Words) : Words := w.flatMap upperPoint

/-- Words in lower case. -/
def lower (w : Words) : Words := lowerFrom [] w

end Text
end Recital
