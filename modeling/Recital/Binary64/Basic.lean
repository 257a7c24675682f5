/-
# Binary64 numbers, computed exactly and then rounded

A finite binary64 number is `± significand · 2 ^ exponent`.  The pair is kept
canonical, so equality of values is equality of data, the two zeros apart:

| number | significand | exponent |
| --- | --- | --- |
| zero or subnormal | below `2 ^ 52` | `-1074` |
| normal | from `2 ^ 52`, below `2 ^ 53` | `-1074` to `971` |

Every operation computes its result as an exact quotient of natural numbers and
hands it to `ofQuotient`, which rounds to the nearest binary64 number, a tie to
the even significand, and overflows to an infinity.  That is the whole content of
the standard's correct rounding, and nothing else in the library rounds to
binary64.
-/

namespace Recital

/-- A binary64 number. -/
inductive Binary64 where
  | finite (negative : Bool) (significand : Nat) (exponent : Int)
  | infinite (negative : Bool)
  | nan
  deriving DecidableEq

/-- `2 ^ k`. -/
def powerOfTwo (k : Nat) : Nat := 1 <<< k

/-- The natural number nearest `num / den`; a half goes to the even neighbour. -/
def roundHalfEven (num den : Nat) : Nat :=
  let q := num / den
  let twice := 2 * (num % den)
  if twice < den then q else if den < twice then q + 1 else q + q % 2

namespace Binary64

/-- Why an operation on numbers has no result. -/
inductive Fault where
  | divisionByZero
  | realDivisionByZero
  | quotientTooLarge
  | integerTooLarge
  | nanToInteger
  | infinityToInteger
  deriving DecidableEq

/-- The wording of a fault. -/
def Fault.message : Fault → String
  | .divisionByZero => "division by zero"
  | .realDivisionByZero => "float division by zero"
  | .quotientTooLarge => "integer division result too large for a float"
  | .integerTooLarge => "int too large to convert to float"
  | .nanToInteger => "cannot convert float NaN to integer"
  | .infinityToInteger => "cannot convert float infinity to integer"

/-- The exponent of the least significant bit of the smallest numbers. -/
def leastExponent : Int := -1074

/-- The greatest exponent of a finite number. -/
def greatestExponent : Int := 971

/-- The number of bits of a significand. -/
def precision : Nat := 53

def zero (negative : Bool) : Binary64 := .finite negative 0 leastExponent

def one : Binary64 := .finite false (powerOfTwo 52) (-52)

def half : Binary64 := .finite false (powerOfTwo 52) (-53)

/-- `num / den` divided by `2 ^ e`, as a quotient of natural numbers. -/
def scaleDown (num den : Nat) (e : Int) : Nat × Nat :=
  if 0 ≤ e then (num, den * powerOfTwo e.toNat) else (num * powerOfTwo (-e).toNat, den)

/-- The greatest `e` with `2 ^ e ≤ num / den`, for positive `num` and `den`. -/
def binaryMagnitude (num den : Nat) : Int :=
  let e : Int := (num.log2 : Int) - (den.log2 : Int)
  let (n, d) := scaleDown num den e
  if d ≤ n then e else e - 1

/-- The number with these parts, where the significand may have reached
`2 ^ precision` by rounding up. -/
def carry (negative : Bool) (significand : Nat) (exponent : Int) : Binary64 :=
  let (m, e) :=
    if significand = powerOfTwo precision then (powerOfTwo (precision - 1), exponent + 1)
    else (significand, exponent)
  if greatestExponent < e then .infinite negative else .finite negative m e

/-- **The one rounding:** the binary64 number nearest `± num / den`, a tie going to
the even significand.  A quotient too large for every finite number is an
infinity, and a zero keeps the sign. -/
def ofQuotient (negative : Bool) (num den : Nat) : Binary64 :=
  if num = 0 then zero negative
  else
    let e := max (binaryMagnitude num den - (precision - 1 : Nat)) leastExponent
    let (n, d) := scaleDown num den e
    carry negative (roundHalfEven n d) e

/-- The number nearest `± m · 2 ^ e`. -/
def ofScaled (negative : Bool) (m : Nat) (e : Int) : Binary64 :=
  let (n, d) := scaleDown m 1 (-e)
  ofQuotient negative n d

/-- Whether a number is an infinity. -/
def isInfinite : Binary64 → Bool
  | .infinite _ => true
  | _ => false

/-- The number nearest a whole number. -/
def ofInt (n : Int) : Except Fault Binary64 :=
  let x := ofQuotient (n < 0) n.natAbs 1
  if x.isInfinite then .error .integerTooLarge else .ok x

/-- The number nearest the exact quotient of two whole numbers.  A zero quotient
is negative when exactly one of the two is negative. -/
def ofRatio (a b : Int) : Except Fault Binary64 :=
  if b = 0 then .error .divisionByZero
  else
    let x := ofQuotient (decide (a < 0) != decide (b < 0)) a.natAbs b.natAbs
    if x.isInfinite then .error .quotientTooLarge else .ok x

/-- The exact product, rounded. -/
def mul : Binary64 → Binary64 → Binary64
  | .finite s m e, .finite t n f => ofScaled (s != t) (m * n) (e + f)
  | .finite s m _, .infinite t => if m = 0 then .nan else .infinite (s != t)
  | .infinite s, .finite t n _ => if n = 0 then .nan else .infinite (s != t)
  | .infinite s, .infinite t => .infinite (s != t)
  | _, _ => .nan

/-- The exact quotient, rounded.  There is none by a zero of either sign. -/
def div : Binary64 → Binary64 → Except Fault Binary64
  | _, .finite _ 0 _ => .error .realDivisionByZero
  | .finite s m e, .finite t n f =>
    let (num, den) := scaleDown m n (f - e)
    .ok (ofQuotient (s != t) num den)
  | .finite s _ _, .infinite t => .ok (zero (s != t))
  | .infinite s, .finite t _ _ => .ok (.infinite (s != t))
  | _, _ => .ok .nan

/-- The significand with its sign. -/
def signed (negative : Bool) (m : Nat) : Int := if negative then -(m : Int) else m

/-- The exact sum, rounded.  An exact zero is negative only when both terms are. -/
def add : Binary64 → Binary64 → Binary64
  | .finite s m e, .finite t n f =>
    let g := min e f
    let sum := signed s (m * powerOfTwo (e - g).toNat) + signed t (n * powerOfTwo (f - g).toNat)
    if sum = 0 then zero (s && t) else ofScaled (sum < 0) sum.natAbs g
  | .infinite s, .infinite t => if s = t then .infinite s else .nan
  | .infinite s, .finite .. => .infinite s
  | .finite .., .infinite t => .infinite t
  | _, _ => .nan

/-- The whole number that a rule for `num / den` makes of a number's magnitude,
with the number's sign. -/
def toIntBy (rule : Nat → Nat → Nat) : Binary64 → Except Fault Int
  | .finite s m e =>
    let (n, d) := scaleDown m 1 (-e)
    .ok (signed s (rule n d))
  | .infinite _ => .error .infinityToInteger
  | .nan => .error .nanToInteger

/-- The whole part of a number. -/
def truncate (x : Binary64) : Except Fault Int := x.toIntBy (· / ·)

/-- The nearest whole number; a half goes to the even neighbour. -/
def round (x : Binary64) : Except Fault Int := x.toIntBy roundHalfEven

/-- The number of an interchange word. -/
def ofBits (word : Nat) : Binary64 :=
  let negative := word / powerOfTwo 63 % 2 == 1
  let biased := word / powerOfTwo 52 % powerOfTwo 11
  let fraction := word % powerOfTwo 52
  if biased = 2047 then
    if fraction = 0 then .infinite negative else .nan
  else if biased = 0 then .finite negative fraction leastExponent
  else .finite negative (fraction + powerOfTwo 52) (biased - 1075)

/-- The interchange word of a number.  All words of the same kind of "not a
number" are written as the quiet positive one. -/
def toBits : Binary64 → Nat
  | .finite s m e =>
    let sign := if s then powerOfTwo 63 else 0
    if m < powerOfTwo 52 then sign + m
    else sign + (e + 1075).toNat * powerOfTwo 52 + (m - powerOfTwo 52)
  | .infinite s => (if s then powerOfTwo 63 else 0) + 2047 * powerOfTwo 52
  | .nan => 2047 * powerOfTwo 52 + powerOfTwo 51

end Binary64
end Recital
