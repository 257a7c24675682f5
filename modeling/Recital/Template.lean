/-
# Random text from templates

A template is a JSON object.  Its keys, in upper case, are the symbols of a grammar
and its values say what may stand for them:

| value | rendering |
| --- | --- |
| a text | itself |
| an array | one of its elements, chosen at random and rendered as an item |
| an array as an item | each of its elements rendered, with spaces between them |
| anything else | none |

Expansion starts from `SENTENCES` and replaces the leftmost occurrence of the first
symbol, in the order of the document, that occurs in the working text.  What comes
in is searched again, so a value may mention other symbols, and nothing keeps a
template from mentioning itself: after `substitutionLimit` steps the expansion is
given up.

A rendering goes into arrays inside arrays, and fails where there is no room to go
deeper.  An array that holds nothing takes no room.
-/

import Recital.Json.Document
import Recital.Random.Chooser
import Recital.Text.Casing
import Recital.Text.Occurrence

namespace Recital

/-- A template: its keys and their values in the order of the document. -/
structure Template where
  members : List (Words × Value)

namespace Template

/-- The most substitutions of an expansion. -/
def substitutionLimit : Nat := 10000

/-- The text that every expansion starts from. -/
def start : Words := "SENTENCES"

/-- Why a template gives no text. -/
inductive Fault where
  | malformed (complaint : Json.Complaint) (place : Json.Place)
  | beyond (limit : Json.Limit)
  | notAnObject
  | emptyKey
  | emptyArray
  | notText (v : Value)
  | tooDeep
  | endless

/-- The wording of a fault. -/
def Fault.message : Fault → String
  | .malformed complaint place => s!"Template is not valid JSON: {complaint.describe place}"
  | .beyond limit => limit.message
  | .notAnObject => "Template must be a JSON object at the top level"
  | .emptyKey => "Template keys must not be empty"
  | .emptyArray => "Cannot pick from an empty array"
  | .notText v => s!"Cannot render JSON value of type {v.typeName}: {v.shown}"
  | .tooDeep => "maximum recursion depth exceeded"
  | .endless => s!"Template did not terminate after {substitutionLimit} substitutions"

/-- The template of a document, where there is room for `room` containers. -/
def load (room : Nat) (document : String) : Except Fault Template :=
  let text := document.toList
  match Json.read room text with
  | .error (.malformed complaint position) =>
    .error (.malformed complaint (Json.Place.ofPosition text position))
  | .error (.beyond limit) => .error (.beyond limit)
  | .ok (.object members) =>
    if members.any fun m => m.1.isEmpty then .error .emptyKey else .ok ⟨members⟩
  | .ok _ => .error .notAnObject

/-- A computation that makes choices and may fail.  The choices made before a
failure stay made. -/
abbrev Draw := ExceptT Fault (StateM Chooser)

/-- An index into a list of length `n`. -/
def chooseIndex (n : Nat) : Draw Nat := do
  let c ← get
  let (i, c) := c.choose n
  set c
  return i

/-- Goes into an array, for which one less is the room. -/
def goInto {α : Type} (room : Nat) (x : (inside : Nat) → Draw α) : Draw α :=
  match room with
  | 0 => throw .tooDeep
  | inside + 1 => x inside

mutual

/-- A rendering of a value that stands for a symbol, or of an element of an item.  `room`
is how many arrays it may still go into. -/
def renderPick (room : Nat) : Value → Draw Words
  | .text w => return w
  | .list items => do
    if items.isEmpty then throw .emptyArray
    goInto room fun inside => do
      let i ← chooseIndex items.length
      renderNth inside items i
  | v => throw (.notText v)

/-- A rendering of element `i` as an item. -/
def renderNth (room : Nat) : List Value → Nat → Draw Words
  | [], _ => throw .emptyArray
  | v :: _, 0 => renderItem room v
  | _ :: vs, i + 1 => renderNth room vs i

/-- A rendering of an element that was chosen. -/
def renderItem (room : Nat) : Value → Draw Words
  | .text w => return w
  | .list items => do
    let parts ← renderEach room items
    return List.intercalate " " parts
  | v => throw (.notText v)

/-- Renderings of all elements of an item. -/
def renderEach (room : Nat) : List Value → Draw (List Words)
  | [] => return []
  | v :: vs => do
    let first ← goInto room fun inside => renderPick inside v
    let rest ← renderEach room vs
    return first :: rest

end

/-- The symbols of a template and their values. -/
def symbols (t : Template) : List (Words × Value) :=
  t.members.map fun (key, v) => (Text.upper key, v)

/-- The first symbol that occurs in a text, by the index of its leftmost occurrence
and its length, and its value. -/
def firstMatch? (symbols : List (Words × Value)) (working : Words) :
    Option (Nat × Nat × Value) :=
  symbols.findSome? fun (symbol, v) =>
    (Text.indexOf? symbol working).map fun i => (i, symbol.length, v)

/-- The expansion of a text by at most `steps` substitutions, after which no
symbol may be left to replace. -/
def expandWithin (room : Nat) (symbols : List (Words × Value)) :
    (steps : Nat) → (working : Words) → Draw Words
  | 0, _ => throw .endless
  | steps + 1, working =>
    match firstMatch? symbols working with
    | none => return working
    | some (i, length, v) => do
      let rendering ← renderPick room v
      expandWithin room symbols steps
        (working.take i ++ rendering ++ working.drop (i + length))

end Template
end Recital
