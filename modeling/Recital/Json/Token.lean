/-
# The tokens of a JSON text

`tokens` cuts a text into its tokens, each with the position of its first
character.  Blanks between tokens are the space, the tab, the line feed and the
carriage return.  Cutting never fails: a text that breaks off or holds a faulty
escape becomes a token that carries its complaint, and a character that starts no
token is a token of its own.  So a reader of the tokens meets the faults in the
order of the text and may prefer a fault of its own at an earlier token.

A number is the longest prefix of the form

    -? (0 | [1-9] [0-9]*) (\. [0-9]+)? ([eE] [+-]? [0-9]+)?

and is an integer when it has neither fraction nor exponent.
-/

import Recital.Json.Fault
import Recital.Value

namespace Recital
namespace Json

/-- What a token is. -/
inductive Lexeme where
  | opening (container : Container)
  | closing (container : Container)
  | colon
  | comma
  | text (w : Words)
  | scalar (v : Value)
  | longInteger (digits : Nat)
  | malformed (complaint : Complaint) (position : Nat)
  | unknown

/-- A token and the position of its first character. -/
structure Token where
  start : Nat
  lexeme : Lexeme

/-- The blanks between tokens. -/
def isBlank (c : Char) : Bool := c == ' ' || c == '\t' || c == '\n' || c == '\r'

/-- The decimal digits of a number, which are the ASCII ones. -/
def isDigit (c : Char) : Bool := '0'.toNat ≤ c.toNat && c.toNat ≤ '9'.toNat

/-- The value of a hexadecimal digit. -/
def hexDigit? (c : Char) : Option Nat :=
  let n := c.toNat
  if '0'.toNat ≤ n ∧ n ≤ '9'.toNat then some (n - '0'.toNat)
  else if 'a'.toNat ≤ n ∧ n ≤ 'f'.toNat then some (n - 'a'.toNat + 10)
  else if 'A'.toNat ≤ n ∧ n ≤ 'F'.toNat then some (n - 'A'.toNat + 10)
  else none

/-- The code unit that four hexadecimal digits spell.  A text goes on after an
escape, if only with its closing quote, so a fifth character has to follow. -/
def codeUnit? : List Char → Option (Nat × List Char)
  | a :: b :: c :: d :: e :: rest => do
    let a ← hexDigit? a
    let b ← hexDigit? b
    let c ← hexDigit? c
    let d ← hexDigit? d
    return (((a * 16 + b) * 16 + c) * 16 + d, e :: rest)
  | _ => none

def isHighSurrogate (unit : Nat) : Bool := 0xD800 ≤ unit && unit < 0xDC00

def isLowSurrogate (unit : Nat) : Bool := 0xDC00 ≤ unit && unit < 0xE000

/-- The code point of an escape with the code unit `high`, which may be the first
half of a pair, and the number of characters that the escape takes after its
backslash.  A half whose partner does not follow stands for itself. -/
def joinSurrogates (position high : Nat) (rest : List Char) : Except Fault (CodePoint × Nat) :=
  match rest with
  | '\\' :: 'u' :: more =>
    if isHighSurrogate high && 4 < more.length then
      match codeUnit? more with
      | none => .error (.malformed .unicodeEscape (position + 7))
      | some (low, _) =>
        if isLowSurrogate low then
          .ok (.ofNat (0x10000 + (high - 0xD800) * 0x400 + (low - 0xDC00)), 11)
        else .ok (.ofNat high, 5)
    else .ok (.ofNat high, 5)
  | _ => .ok (.ofNat high, 5)

/-- The code point of the escape whose backslash stands at `position`, and the
number of characters that it takes after the backslash.  `opening` is where the
text starts. -/
def escape (opening position : Nat) : List Char → Except Fault (CodePoint × Nat)
  | [] => .error (.malformed .unterminated opening)
  | 'u' :: rest =>
    match codeUnit? rest with
    | none => .error (.malformed .unicodeEscape (position + 1))
    | some (unit, rest) => joinSurrogates position unit rest
  | '"' :: _ => .ok ('"', 1)
  | '\\' :: _ => .ok ('\\', 1)
  | '/' :: _ => .ok ('/', 1)
  | 'b' :: _ => .ok ('\x08', 1)
  | 'f' :: _ => .ok ('\x0c', 1)
  | 'n' :: _ => .ok ('\n', 1)
  | 'r' :: _ => .ok ('\r', 1)
  | 't' :: _ => .ok ('\t', 1)
  | _ :: _ => .error (.malformed .escape position)

/-- The words of a text up to its closing quote, and the position after it.
The first `skip` characters belong to an escape that was read before. -/
def textFrom (opening position skip : Nat) : List Char → Except Fault (Words × Nat)
  | [] => .error (.malformed .unterminated opening)
  | c :: rest =>
    match skip with
    | skip + 1 => textFrom opening (position + 1) skip rest
    | 0 =>
      if c = '"' then .ok ([], position + 1)
      else if c = '\\' then do
        let (image, used) ← escape opening position rest
        let (w, stop) ← textFrom opening (position + 1) used rest
        return (image :: w, stop)
      else if c.toNat < 0x20 then .error (.malformed .controlCharacter position)
      else do
        let (w, stop) ← textFrom opening (position + 1) 0 rest
        return (c :: w, stop)

/-- The digits at the front. -/
def leadingDigits (cs : List Char) : List Char := cs.takeWhile isDigit

/-- The whole part of a number: a zero alone, or digits that do not start with
one. -/
def wholePart : List Char → List Char
  | '0' :: _ => ['0']
  | cs => leadingDigits cs

/-- The digits of a fraction; none where there is no fraction. -/
def fractionPart : List Char → List Char
  | '.' :: rest => leadingDigits rest
  | _ => []

/-- The exponent, where there is one, and its length. -/
def exponentPart : List Char → Option (Int × Nat)
  | [] => none
  | e :: rest =>
    if e = 'e' ∨ e = 'E' then
      let (negative, signs, digits) := match rest with
        | '-' :: more => (true, 1, leadingDigits more)
        | '+' :: more => (false, 1, leadingDigits more)
        | _ => (false, 0, leadingDigits rest)
      if digits.isEmpty then none
      else
        let size : Int := Text.ofDigits (digits.map fun c => c.toNat - '0'.toNat)
        some (if negative then -size else size, 1 + signs + digits.length)
    else none

/-- The number at the front of `cs`, its sign read before, and its length. -/
def number? (negative : Bool) (cs : List Char) : Option (Lexeme × Nat) :=
  let whole := wholePart cs
  let fraction := fractionPart (cs.drop whole.length)
  let unscaled := whole.length + if fraction.isEmpty then 0 else 1 + fraction.length
  let digits := (whole ++ fraction).map fun c => c.toNat - '0'.toNat
  if whole.isEmpty then none
  else match exponentPart (cs.drop unscaled) with
    | some (exponent, length) =>
      let x := Binary64.ofDecimal negative (Text.ofDigits digits) (exponent - fraction.length)
      some (.scalar (.real x), unscaled + length)
    | none =>
      if fraction.isEmpty then
        let n : Int := Text.ofDigits digits
        if Text.digitLimit < whole.length then some (.longInteger whole.length, unscaled)
        else some (.scalar (.integer (if negative then -n else n)), unscaled)
      else
        let x := Binary64.ofDecimal negative (Text.ofDigits digits) (-(fraction.length : Int))
        some (.scalar (.real x), unscaled)

/-- The words that are values. -/
def literals : List (List Char × Value) :=
  [("null".toList, .null), ("true".toList, .boolean true), ("false".toList, .boolean false),
    ("NaN".toList, .real .nan), ("Infinity".toList, .real (.infinite false)),
    ("-Infinity".toList, .real (.infinite true))]

/-- The text whose opening quote stands at `position`, and the number of characters
that it takes after the quote.  A faulty text takes the rest of the characters. -/
def textLexeme (position : Nat) (rest : List Char) : Lexeme × Nat :=
  match textFrom position (position + 1) 0 rest with
  | .ok (w, stop) => (.text w, stop - position - 1)
  | .error (.malformed complaint place) => (.malformed complaint place, rest.length)
  | .error (.beyond _) => (.unknown, rest.length)

/-- The token that starts with `c`, and the number of characters of `rest` that
belong to it. -/
def lexeme (position : Nat) (c : Char) (rest : List Char) : Lexeme × Nat :=
  match literals.find? fun literal => literal.1.isPrefixOf (c :: rest) with
  | some (word, v) => (.scalar v, word.length - 1)
  | none =>
    if c = '[' then (.opening .array, 0)
    else if c = ']' then (.closing .array, 0)
    else if c = '\x7b' then (.opening .object, 0)
    else if c = '\x7d' then (.closing .object, 0)
    else if c = ':' then (.colon, 0)
    else if c = ',' then (.comma, 0)
    else if c = '"' then textLexeme position rest
    else if c = '-' then (number? true rest).getD (.unknown, 0)
    else match number? false (c :: rest) with
      | some (what, length) => (what, length - 1)
      | none => (.unknown, 0)

/-- The tokens of a text from `position` on.  The first `skip` characters belong
to the token before. -/
def tokensFrom (position skip : Nat) : List Char → List Token
  | [] => []
  | c :: rest =>
    match skip with
    | skip + 1 => tokensFrom (position + 1) skip rest
    | 0 =>
      if isBlank c then tokensFrom (position + 1) 0 rest
      else
        let (what, used) := lexeme position c rest
        ⟨position, what⟩ :: tokensFrom (position + 1) used rest

/-- The tokens of a text. -/
def tokens (text : List Char) : List Token := tokensFrom 0 0 text

end Json
end Recital
