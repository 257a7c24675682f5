/-
# Writing a JSON document

The layout of manifests: every member and element on a line of its own, indented
by two spaces for each container around it, and empty containers as a bare pair of
brackets.  Texts are written in ASCII, every other code point as the escapes of its
UTF-16 code units, so that two halves of a surrogate pair that follow each other read
as one character.
-/

import Recital.Value

namespace Recital
namespace Json

/-- The escape of a UTF-16 code unit. -/
def unitEscape (unit : Nat) : List Char := '\\' :: 'u' :: Text.hexadecimal 4 unit

/-- How a code point is written in a text. -/
def writtenPoint (c : CodePoint) : List Char :=
  if c = '"' ∨ c = '\\' then ['\\', c.readable]
  else if c = '\n' then ['\\', 'n']
  else if c = '\r' then ['\\', 'r']
  else if c = '\t' then ['\\', 't']
  else if c = '\x08' then ['\\', 'b']
  else if c = '\x0c' then ['\\', 'f']
  else
    let n := c.toNat
    if 0x20 ≤ n ∧ n < 0x7F then [c.readable]
    else if n < 0x10000 then unitEscape n
    else
      let high := 0xD800 + (n - 0x10000) / 0x400
      let low := 0xDC00 + (n - 0x10000) % 0x400
      unitEscape high ++ unitEscape low

/-- A text with its quotes. -/
def writtenText (w : Words) : String :=
  String.ofList ('"' :: w.flatMap writtenPoint ++ ['"'])

/-- A number with a fraction or an exponent. -/
def writtenReal : Binary64 → String
  | .nan => "NaN"
  | .infinite negative => if negative then "-Infinity" else "Infinity"
  | x => x.text

/-- The blanks in front of a line inside `depth` containers. -/
def indent (depth : Nat) : String := String.ofList (List.replicate (2 * depth) ' ')

/-- Lines inside a pair of brackets, where the bracket stands in `depth`
containers. -/
def bracketed (opening closing : String) (depth : Nat) (lines : List String) : String :=
  if lines.isEmpty then opening ++ closing
  else
    let indented := lines.map fun line => indent (depth + 1) ++ line
    opening ++ "\n" ++ ",\n".intercalate indented ++ "\n" ++ indent depth ++ closing

mutual

/-- A value inside `depth` containers. -/
def writtenAt (depth : Nat) : Value → String
  | .null => "null"
  | .boolean b => if b then "true" else "false"
  | .integer n => s!"{n}"
  | .real x => writtenReal x
  | .text w => writtenText w
  | .list items => bracketed "[" "]" depth (writtenItems (depth + 1) items)
  | .object members => bracketed "\x7b" "\x7d" depth (writtenMembers (depth + 1) members)

def writtenItems (depth : Nat) : List Value → List String
  | [] => []
  | v :: vs => writtenAt depth v :: writtenItems depth vs

def writtenMembers (depth : Nat) : List (Words × Value) → List String
  | [] => []
  | (key, v) :: ms => (writtenText key ++ ": " ++ writtenAt depth v) :: writtenMembers depth ms

end

/-- A document. -/
def written (v : Value) : String := writtenAt 0 v

end Json
end Recital
