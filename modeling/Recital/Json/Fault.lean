/-
# What can be wrong with a JSON text

A fault of syntax is a complaint and the position of the character it is about,
counted from 0.  Messages give that position also as a line and a column, both
counted from 1; a line ends with a line feed.  Two limits of the reader are faults
of another kind: containers may not be nested too deeply, and an integer may not
have too many digits.
-/

import Recital.Text.Numeral

namespace Recital
namespace Json

/-- The two kinds of container. -/
inductive Container where
  | array
  | object
  deriving DecidableEq

/-- The name of a kind of container. -/
def Container.name : Container → String
  | .array => "array"
  | .object => "object"

/-- What the reader missed or met. -/
inductive Complaint where
  | value
  | propertyName
  | colon
  | comma
  | unterminated
  | controlCharacter
  | escape
  | unicodeEscape
  | extraData
  | byteOrderMark
  deriving DecidableEq

/-- The wording of a complaint. -/
def Complaint.message : Complaint → String
  | .value => "Expecting value"
  | .propertyName => "Expecting property name enclosed in double quotes"
  | .colon => "Expecting ':' delimiter"
  | .comma => "Expecting ',' delimiter"
  | .unterminated => "Unterminated string starting at"
  | .controlCharacter => "Invalid control character at"
  | .escape => "Invalid \\escape"
  | .unicodeEscape => "Invalid \\uXXXX escape"
  | .extraData => "Extra data"
  | .byteOrderMark => "Unexpected UTF-8 BOM (decode using utf-8-sig)"

/-- A limit of the reader that a document goes beyond. -/
inductive Limit where
  | depth (container : Container)
  | digits (count : Nat)
  deriving DecidableEq

/-- The wording of a limit. -/
def Limit.message : Limit → String
  | .depth container =>
    s!"maximum recursion depth exceeded while decoding a JSON {container.name} " ++
      "from a unicode string"
  | .digits count =>
    s!"Exceeds the limit ({Text.digitLimit} digits) for integer string conversion: " ++
      s!"value has {count} digits; use sys.set_int_max_str_digits() to increase the limit"

/-- Why a text is not read. -/
inductive Fault where
  | malformed (complaint : Complaint) (position : Nat)
  | beyond (limit : Limit)
  deriving DecidableEq

/-- A position of a text, with its line and its column. -/
structure Place where
  position : Nat
  line : Nat
  column : Nat
  deriving DecidableEq

/-- The place of a position. -/
def Place.ofPosition (text : List Char) (position : Nat) : Place :=
  let before := text.take position
  ⟨position, before.count '\n' + 1, (before.reverse.takeWhile (· != '\n')).length + 1⟩

/-- The wording of a complaint about a place. -/
def Complaint.describe (complaint : Complaint) (place : Place) : String :=
  s!"{complaint.message}: line {place.line} column {place.column} (char {place.position})"

end Json
end Recital
