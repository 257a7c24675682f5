/-
# Files and folders

The part of a disk that the program works in: the files below one folder with their
bytes, and the folders below it.  A folder that holds a file is there even if it is
not listed.  Looking a path up goes through its components; each of them has to be
looked up in a folder, `.` and an empty component stay there, and `..` goes back.
Everything above the folder counts as a single folder outside, the parent of itself,
where absolute paths start; it is empty at first, and no way leads back from it.
-/

import Recital.Disk.Path
import Recital.Text.Quoted

namespace Recital

/-- Files and folders, by the components of their paths. -/
structure Disk where
  files : List (List String × List UInt8) := []
  folders : List (List String) := []

namespace Disk

/-- Why the system refuses a path. -/
inductive Refusal where
  | noEntry
  | exists
  | notDirectory
  | isDirectory
  | nameTooLong
  deriving DecidableEq

/-- The system's number for a refusal. -/
def Refusal.number : Refusal → Nat
  | .noEntry => 2
  | .exists => 17
  | .notDirectory => 20
  | .isDirectory => 21
  | .nameTooLong => 36

/-- The system's wording of a refusal. -/
def Refusal.message : Refusal → String
  | .noEntry => "No such file or directory"
  | .exists => "File exists"
  | .notDirectory => "Not a directory"
  | .isDirectory => "Is a directory"
  | .nameTooLong => "File name too long"

/-- A failed operation on a path. -/
inductive Fault where
  | refused (refusal : Refusal) (path : String)
  | embeddedNull
  | tooManyFolders
  deriving DecidableEq

/-- The wording of a failed operation. -/
def Fault.message : Fault → String
  | .refused refusal path => s!"[Errno {refusal.number}] {refusal.message}: {Text.quoted path}"
  | .embeddedNull => "embedded null byte"
  | .tooManyFolders => "maximum recursion depth exceeded"

/-- What there is at a place. -/
inductive Node where
  | file (bytes : List UInt8)
  | folder
  | nothing

/-- The most bytes of a name. -/
def nameLimit : Nat := 255

/-- The most bytes of a path. -/
def pathLimit : Nat := 4095

/-- The place of the folder outside. -/
def outside : List String := [".."]

/-- The folder that a folder is in. -/
def parent (place : List String) : List String :=
  if place.isEmpty || place == outside then outside else place.dropLast

/-- What there is at a place, given by its components from the top. -/
def node (d : Disk) (place : List String) : Node :=
  match d.files.lookup place with
  | some bytes => .file bytes
  | none =>
    let inside (p : List String) : Bool := place.isPrefixOf p
    if place.isEmpty || place == outside || d.folders.any inside || d.files.any fun f => inside f.1
    then .folder
    else .nothing

/-- The place that components lead to from a place, and what is there. -/
def follow (d : Disk) (place : List String) : List String → Except Refusal (List String × Node)
  | [] => .ok (place, d.node place)
  | name :: rest =>
    match d.node place with
    | .file _ => .error .notDirectory
    | .nothing => .error .noEntry
    | .folder =>
      if name = "" ∨ name = "." then d.follow place rest
      else if name = ".." then d.follow (parent place) rest
      else if nameLimit < name.utf8ByteSize then .error .nameTooLong
      else d.follow (place ++ [name]) rest

/-- The place of a path, and what is there. -/
def lookUp (d : Disk) (path : String) : Except Refusal (List String × Node) :=
  if path.isEmpty then .error .noEntry
  else if pathLimit < path.utf8ByteSize then .error .nameTooLong
  else match Path.components path with
    | "" :: names => d.follow outside names
    | names => d.follow [] names

/-- Whether a path leads to a folder. -/
def isFolder (d : Disk) (path : String) : Bool :=
  match d.lookUp path with
  | .ok (_, .folder) => true
  | _ => false

/-- Whether a path leads anywhere. -/
def isThere (d : Disk) (path : String) : Bool :=
  match d.lookUp path with
  | .ok (_, .nothing) | .error _ => false
  | .ok _ => true

/-- The bytes of a file. -/
def read (d : Disk) (path : String) : Except Fault (List UInt8) :=
  if path.toList.contains (Char.ofNat 0) then .error .embeddedNull
  else match d.lookUp path with
    | .error refusal => .error (.refused refusal path)
    | .ok (_, .nothing) => .error (.refused .noEntry path)
    | .ok (_, .folder) => .error (.refused .isDirectory path)
    | .ok (_, .file bytes) => .ok bytes

/-- The files after one is written. -/
def putFile (place : List String) (bytes : List UInt8) :
    List (List String × List UInt8) → List (List String × List UInt8)
  | [] => [(place, bytes)]
  | f :: files => if f.1 = place then (place, bytes) :: files else f :: putFile place bytes files

/-- The disk after a file is written. -/
def write (d : Disk) (path : String) (bytes : List UInt8) : Except Fault Disk :=
  if path.toList.contains (Char.ofNat 0) then .error .embeddedNull
  else match d.lookUp path with
    | .error refusal => .error (.refused refusal path)
    | .ok (_, .folder) => .error (.refused .isDirectory path)
    | .ok (place, _) => .ok { d with files := putFile place bytes d.files }

/-- The disk after a folder is made, whose parent has to be there. -/
def makeFolder (d : Disk) (path : String) : Except Fault Disk :=
  if path.toList.contains (Char.ofNat 0) then .error .embeddedNull
  else match d.lookUp path with
    | .error refusal => .error (.refused refusal path)
    | .ok (place, .nothing) => .ok { d with folders := place :: d.folders }
    | .ok _ => .error (.refused .exists path)

/-- The disk after a folder is made, if it is not there, and the fault if it is neither
made nor there. -/
def assureFolder (d : Disk) (path : String) : Disk × Option Fault :=
  match d.makeFolder path with
  | .ok d => (d, none)
  | .error fault => (d, if d.isFolder path then none else some fault)

/-- The disk after at most `count` folders of a path are made, from the top, and the fault
that ended this, if one did.  It is no failure that a folder is there, and a `.` behind a
folder that was just made needs no folder of its own. -/
def makeFoldersWithin : (count : Nat) → Disk → String → Disk × Option Fault
  | 0, d, _ => (d, some .tooManyFolders)
  | count + 1, d, path =>
    let trimmed := if (Path.baseName path).isEmpty then Path.directory path else path
    let head := Path.directory trimmed
    let tail := Path.baseName trimmed
    if head.isEmpty || tail.isEmpty || d.isThere head then d.assureFolder path
    else match makeFoldersWithin count d head with
      | (d, none) | (d, some (.refused .exists _)) =>
        if tail = "." then (d, none) else d.assureFolder path
      | (d, some fault) => (d, some fault)

/-- The most folders that are made at once. -/
def folderLimit : Nat := 990

/-- The disk after the folders of a path are made, as far as they can be, and the fault if
they cannot.  Nothing is there under a path with a null character, so what is wrong with the
folders in front of it is met first. -/
def makeFolders (d : Disk) (path : String) : Disk × Option Fault :=
  makeFoldersWithin folderLimit d path

end Disk
end Recital
