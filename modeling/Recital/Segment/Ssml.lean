/-
# Segments as SSML

A segment is written as a document of the speech synthesis markup language.  A scope
becomes up to two elements, and closing it closes them in the opposite order:

| scope | elements |
| --- | --- |
| voice | `voice` with the id; there is no element for no voice |
| style | `prosody` with the rate and the volume that are set, then `emphasis` |
| sentence | `s` |
| paragraph | `p` |

Texts that follow each other directly are kept apart by a space.  `pieces` is the
document as a sequence of tags and character data, `ssml` the text of it.
-/

import Recital.Error
import Recital.Text.Escaped

namespace Recital

/-- An element with its attributes, whose values are written as they are. -/
structure Element where
  tag : String
  attributes : List (String × Words) := []

/-- A piece of a document. -/
inductive Piece where
  | startTag (element : Element)
  | words (text : Words)
  | endTag (tag : String)

/-- The text of a piece. -/
def Piece.written : Piece → Words
  | .startTag e =>
    let attributes := e.attributes.map fun (name, value) =>
      (" " ++ name ++ "=\"" ++ value ++ "\"" : Words)
    "<" ++ e.tag ++ attributes.flatten ++ ">"
  | .words text => Text.escaped text
  | .endTag tag => "</" ++ tag ++ ">"

/-- The rate levels from 1 up. -/
def rateWords : List String := ["x-fast", "fast", "medium", "slow", "x-slow"]

/-- The emphasis levels from 1 up. -/
def emphasisWords : List String := ["strong", "moderate", "none", "reduced"]

/-- The volume levels from 1 up. -/
def volumeWords : List String :=
  ["silent", "x-soft", "soft", "medium", "loud", "x-loud", "default"]

/-- The entry of a level that is set in a table that starts at level 1. -/
def wordOf (table : List String) (level : Int) : Except Error String :=
  match if level < 1 then none else table[(level - 1).toNat]? with
  | some word => .ok word
  | none => .error (.noSuchLevel level)

/-- The attribute of a level, if it is set. -/
def levelAttribute (name : String) (table : List String) (level : Int) :
    Except Error (List (String × Words)) :=
  if level = 0 then .ok []
  else do
    let word ← wordOf table level
    return [(name, word)]

/-- The elements of a style. -/
def Style.elements (s : Style) : Except Error (List Element) := do
  let rate ← levelAttribute "rate" rateWords s.rate
  let volume ← levelAttribute "volume" volumeWords s.volume
  let emphasis ← levelAttribute "level" emphasisWords s.emphasis
  let prosody := rate ++ volume
  return (if prosody.isEmpty then [] else [⟨"prosody", prosody⟩]) ++
    (if emphasis.isEmpty then [] else [⟨"emphasis", emphasis⟩])

/-- The elements of a scope, outermost first. -/
def Scope.elements : Scope → Except Error (List Element)
  | .voice (some v) => .ok [⟨"voice", [("name", Text.escaped v.id)]⟩]
  | .voice none => .error .missingVoice
  | .style s => s.elements
  | .sentence => .ok [⟨"s", []⟩]
  | .paragraph => .ok [⟨"p", []⟩]

namespace Segment

/-- The pieces of an event.  `spaced` says that a text went directly before. -/
def eventPieces (spaced : Bool) : Event → Except Error (List Piece)
  | .text words => .ok (if spaced then [.words " ", .words words] else [.words words])
  | .opening scope => do
    let elements ← scope.elements
    return elements.map .startTag
  | .closing scope => do
    let elements ← scope.elements
    return elements.reverse.map fun e => .endTag e.tag

/-- The pieces of a sequence of events. -/
def piecesFrom (spaced : Bool) : List Event → Except Error (List Piece)
  | [] => .ok []
  | e :: events => do
    let first ← eventPieces spaced e
    let rest ← piecesFrom e.words?.isSome events
    return first ++ rest

/-- The name space of the markup language. -/
def nameSpace : String := "http://www.w3.org/2001/10/synthesis"

/-- The language of documents, unless another one is asked for. -/
def language : String := "en-US"

/-- The element around a document. -/
def speak (lang : String) : Element :=
  ⟨"speak", [("version", "1.0"), ("xmlns", nameSpace), ("xml:lang", lang)]⟩

/-- The document of a segment, piece by piece. -/
def pieces (s : Segment) (lang : String) : Except Error (List Piece) :=
  if s.interactive.isSome then .error .interactiveMarkup
  else do
    let inner ← piecesFrom false s.events
    return .startTag (speak lang) :: inner ++ [.endTag "speak"]

/-- The document of a segment. -/
def ssml (s : Segment) (lang : String) : Except Error Words := do
  let all ← s.pieces lang
  return all.flatMap Piece.written

end Segment
end Recital
