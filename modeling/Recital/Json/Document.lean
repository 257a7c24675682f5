/-
# Reading a JSON document

The reader goes through the tokens once.  What it has read is a stack of the
containers that are still open, and what it waits for is its state:

| state | waits for |
| --- | --- |
| `value` | a value |
| `firstItem` | a value, or the end of an array that is still empty |
| `firstKey` | a key, or the end of an object that is still empty |
| `nextKey` | a key |
| `colon` | the colon behind a key |
| `afterItem`, `afterMember` | a comma or the end of the innermost container |
| `done` | the end of the text |

A token that does not fit is a fault at the token, and so is the end of the text
where more was to come.  A key that stands twice in an object keeps its first place
and its last value.  Each container that is open takes a call of the reader, and how
many calls there is room for depends on those that are under way when the reading
starts; so the room for containers is given to the reader.
-/

import Recital.Json.Token

namespace Recital
namespace Json

/-- A container that is still open: what it holds, and for an object the key whose
value is being read. -/
inductive Frame where
  | array (items : List Value)
  | object (members : List (Words × Value)) (key : Words)

/-- What the reader waits for, with the containers that are open around it. -/
inductive State where
  | value (stack : List Frame)
  | firstItem (stack : List Frame)
  | firstKey (stack : List Frame)
  | nextKey (members : List (Words × Value)) (stack : List Frame)
  | colon (members : List (Words × Value)) (key : Words) (stack : List Frame)
  | afterItem (items : List Value) (stack : List Frame)
  | afterMember (members : List (Words × Value)) (stack : List Frame)
  | done (v : Value)

/-- The state after a whole value. -/
def State.supply (v : Value) : List Frame → State
  | [] => .done v
  | .array items :: stack => .afterItem (v :: items) stack
  | .object members key :: stack => .afterMember (Value.put key v members) stack

/-- The state after the start of a container, where there is room for `room` of them. -/
def State.enter (room : Nat) (container : Container) (stack : List Frame) : Except Fault State :=
  if room ≤ stack.length then .error (.beyond (.depth container))
  else match container with
    | .array => .ok (.firstItem stack)
    | .object => .ok (.firstKey stack)

/-- The state after a token where a value has to stand. -/
def State.read (room : Nat) (stack : List Frame) (token : Token) : Except Fault State :=
  match token.lexeme with
  | .opening container => State.enter room container stack
  | .text w => .ok (.supply (.text w) stack)
  | .scalar v => .ok (.supply v stack)
  | .longInteger digits => .error (.beyond (.digits digits))
  | .malformed complaint position => .error (.malformed complaint position)
  | _ => .error (.malformed .value token.start)

/-- The state after a token where a key has to stand. -/
def State.readKey (members : List (Words × Value)) (stack : List Frame) (token : Token) :
    Except Fault State :=
  match token.lexeme with
  | .text key => .ok (.colon members key stack)
  | .malformed complaint position => .error (.malformed complaint position)
  | _ => .error (.malformed .propertyName token.start)

/-- The state after one more token. -/
def State.step (room : Nat) (state : State) (token : Token) : Except Fault State :=
  match state, token.lexeme with
  | .value stack, _ => State.read room stack token
  | .firstItem stack, .closing .array => .ok (.supply (.list []) stack)
  | .firstItem stack, _ => State.read room (.array [] :: stack) token
  | .firstKey stack, .closing .object => .ok (.supply (.object []) stack)
  | .firstKey stack, _ => State.readKey [] stack token
  | .nextKey members stack, _ => State.readKey members stack token
  | .colon members key stack, .colon => .ok (.value (.object members key :: stack))
  | .colon .., _ => .error (.malformed .colon token.start)
  | .afterItem items stack, .comma => .ok (.value (.array items :: stack))
  | .afterItem items stack, .closing .array => .ok (.supply (.list items.reverse) stack)
  | .afterItem .., _ => .error (.malformed .comma token.start)
  | .afterMember members stack, .comma => .ok (.nextKey members stack)
  | .afterMember members stack, .closing .object => .ok (.supply (.object members) stack)
  | .afterMember .., _ => .error (.malformed .comma token.start)
  | .done _, _ => .error (.malformed .extraData token.start)

/-- The value that is complete at the end of the text, which is at `stop`. -/
def State.finish (stop : Nat) : State → Except Fault Value
  | .done v => .ok v
  | .value _ | .firstItem _ => .error (.malformed .value stop)
  | .firstKey _ | .nextKey .. => .error (.malformed .propertyName stop)
  | .colon .. => .error (.malformed .colon stop)
  | .afterItem .. | .afterMember .. => .error (.malformed .comma stop)

/-- The value that a JSON text holds, where there is room for `room` containers. -/
def read (room : Nat) (text : List Char) : Except Fault Value :=
  if text.head? = some (Char.ofNat 0xFEFF) then .error (.malformed .byteOrderMark 0)
  else do
    let state ← (tokens text).foldlM (State.step room) (.value [])
    state.finish text.length

end Json
end Recital
