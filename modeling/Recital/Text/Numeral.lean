/-
# Whole numbers as people write them

A whole number is an optional sign and one or more decimal digits of any script,
with at most one underscore between two digits and blanks around the whole.  The
information separators `U+001C` to `U+001F` are the one kind of blank that may not
stand there.  A numeral of more than `digitLimit` digits is refused.
-/

import Recital.Text.Blank
import Recital.Text.Digit

namespace Recital
namespace Text

/-- The greatest number of digits of a numeral. -/
def digitLimit : Nat := 4300

/-- Whether a character may surround a numeral. -/
def isPadding (c : Char) : Bool := isBlank c && !(0x1C ≤ c.toNat && c.toNat ≤ 0x1F)

/-- The digits of a numeral without sign and padding. -/
def digits? : List Char → Option (List Nat)
  | [] => none
  | [c] => (digit? c).map fun d => [d]
  | c :: '_' :: rest => do
    let d ← digit? c
    let ds ← digits? rest
    return d :: ds
  | c :: rest => do
    let d ← digit? c
    let ds ← digits? rest
    return d :: ds

/-- The number that decimal digits spell, most significant digit first. -/
def ofDigits (ds : List Nat) : Nat := ds.foldl (fun n d => 10 * n + d) 0

/-- The value of an unsigned numeral. -/
def natural? (cs : List Char) : Option Nat := do
  let ds ← digits? cs
  if ds.length ≤ digitLimit then some (ofDigits ds) else none

/-- The characters between the padding. -/
def trimPadding (cs : List Char) : List Char :=
  ((cs.dropWhile isPadding).reverse.dropWhile isPadding).reverse

/-- The whole number that a text spells. -/
def wholeNumber? (s : String) : Option Int :=
  match trimPadding s.toList with
  | '-' :: cs => (natural? cs).map fun n => -(n : Int)
  | '+' :: cs => (natural? cs).map fun n => (n : Int)
  | cs => (natural? cs).map fun n => (n : Int)

end Text
end Recital
