/-
# Values of documents

What a template document holds, and what may stand where an instruction expects a
number: nothing, a truth value, a whole number of any size, a binary64 number, a
text, a list or an object.  An object keeps its members in the order of the
document.  `shown` is the text of a value in messages, and `plain` its text where it
stands by itself.
-/

import Recital.Binary64.Decimal
import Recital.Text.Quoted

namespace Recital

/-- A value of a document. -/
inductive Value where
  | null
  | boolean (b : Bool)
  | integer (n : Int)
  | real (x : Binary64)
  | text (w : Words)
  | list (items : List Value)
  | object (members : List (Words × Value))

namespace Value

/-- The name of a value's type in messages. -/
def typeName : Value → String
  | .null => "NoneType"
  | .boolean _ => "bool"
  | .integer _ => "int"
  | .real _ => "float"
  | .text _ => "str"
  | .list _ => "list"
  | .object _ => "dict"

mutual

/-- The text of a value in messages. -/
def shown : Value → String
  | .null => "None"
  | .boolean b => if b then "True" else "False"
  | .integer n => s!"{n}"
  | .real x => x.text
  | .text w => Text.quoted w
  | .list items => "[" ++ ", ".intercalate (shownItems items) ++ "]"
  | .object members => "\x7b" ++ ", ".intercalate (shownMembers members) ++ "\x7d"

def shownItems : List Value → List String
  | [] => []
  | v :: vs => shown v :: shownItems vs

def shownMembers : List (Words × Value) → List String
  | [] => []
  | (key, v) :: ms => (Text.quoted key ++ ": " ++ shown v) :: shownMembers ms

end

/-- The text of a value by itself: a text stands for itself. -/
def plain : Value → Words
  | .text w => w
  | v => v.shown

/-- Whether a value says nothing: nothing, false, zero, or something without parts. -/
def isVoid : Value → Bool
  | .null => true
  | .boolean b => !b
  | .integer n => n == 0
  | .real (.finite _ 0 _) => true
  | .real _ => false
  | .text w => w.isEmpty
  | .list items => items.isEmpty
  | .object members => members.isEmpty

/-- The members of an object after one is written: a new key goes to the end, and
a key that is there keeps its place and takes the new value. -/
def put (key : Words) (v : Value) : List (Words × Value) → List (Words × Value)
  | [] => [(key, v)]
  | (k, w) :: ms => if k = key then (k, v) :: ms else (k, w) :: put key v ms

/-- The value of a key of an object. -/
def member? (v : Value) (key : Words) : Option Value :=
  match v with
  | .object members => members.lookup key
  | _ => none

end Value
end Recital
