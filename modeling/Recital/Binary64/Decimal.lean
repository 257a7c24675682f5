/-
# Binary64 numbers in decimal

**Writing.**  A finite number is written with the fewest digits that read back as
the same number, and of the candidates with that many digits the nearest one.
Between a number and its neighbours lie the two midpoints; every decimal between
them reads back, and the midpoints themselves do when the significand is even.
`shortest?` looks at the two decimals around the number on a grid of 1, 2, … 17
digits and stops at the first grid with a hit.

**Notation.**  The point stands among the digits while the first digit counts
units between `10 ^ -4` and `10 ^ 15`, and a whole number ends in `.0`; beyond
that an exponent of at least two digits follows the first digit.

**Reading.**  A decimal is an exact quotient and is rounded once.  Exponents so
large or small that the result is an infinity or a zero whatever the digits are
decided without writing the power of ten out.
-/

import Recital.Binary64.Basic

namespace Recital

/-- `10 ^ k`. -/
def powerOfTen (k : Nat) : Nat := Nat.pow 10 k

namespace Binary64

/-- `num / den` divided by `10 ^ e`, as a quotient of natural numbers. -/
def scaleDownByTen (num den : Nat) (e : Int) : Nat × Nat :=
  if 0 ≤ e then (num, den * powerOfTen e.toNat) else (num * powerOfTen (-e).toNat, den)

/-- The number of decimal digits of `n`. -/
def digitCount (n : Nat) : Nat := (Nat.toDigits 10 n).length

/-- The greatest `e` with `10 ^ e ≤ num / den`, for positive `num` and `den`. -/
def decimalMagnitude (num den : Nat) : Int :=
  if den ≤ num then (digitCount (num / den) : Int) - 1
  else -(digitCount ((den + num - 1) / num - 1) : Int)

/-- The decimals that read back as a number: those between two bounds over a
common denominator, the bounds themselves included or not. -/
structure Basin where
  low : Nat
  value : Nat
  high : Nat
  den : Nat
  closed : Bool

/-- The basin of the number `m · 2 ^ e`: half-way to its neighbours, of which the
lower one is at half the distance when `m` is the least normal significand. -/
def basin (m : Nat) (e : Int) : Basin :=
  let below := if m = powerOfTwo 52 ∧ leastExponent < e then 1 else 2
  let (unit, den) := scaleDown 1 1 (2 - e)
  ⟨(4 * m - below) * unit, 4 * m * unit, (4 * m + 2) * unit, den, m % 2 == 0⟩

/-- Whether the decimal `n · 10 ^ q` lies in a basin. -/
def Basin.holds (b : Basin) (n : Nat) (q : Int) : Bool :=
  let (num, den) := scaleDownByTen (n * b.den) 1 (-q)
  if b.closed then b.low * den ≤ num && num ≤ b.high * den
  else b.low * den < num && num < b.high * den

/-- The decimal `n · 10 ^ q` in the basin that is nearest its number, among the two
around the number on the grid of multiples of `10 ^ q`. -/
def Basin.nearest? (b : Basin) (q : Int) : Option Nat :=
  let (num, den) := scaleDownByTen b.value b.den q
  let n := num / den
  let preferred := roundHalfEven num den
  let other := if preferred = n then n + 1 else n
  if b.holds preferred q then some preferred
  else if b.holds other q then some other
  else none

/-- The first grid on which a decimal reads back, starting with `digits` digits,
and the decimal. -/
def Basin.search (b : Basin) (magnitude : Int) : (attempts digits : Nat) → Option (Nat × Int)
  | 0, _ => none
  | attempts + 1, digits =>
    let q := magnitude - digits + 1
    match b.nearest? q with
    | some n => some (n, q)
    | none => b.search magnitude attempts (digits + 1)

/-- The shortest decimal `n · 10 ^ q` that reads back as `m · 2 ^ e`. -/
def shortest? (m : Nat) (e : Int) : Option (Nat × Int) :=
  let b := basin m e
  b.search (decimalMagnitude b.value b.den) 17 1

/-- Digits without the zeros at their end, and how many were dropped. -/
def trimZeros (digits : List Char) : List Char × Nat :=
  let kept := (digits.reverse.dropWhile (· == '0')).reverse
  (kept, digits.length - kept.length)

/-- Digits `d₁d₂…` that stand for `d₁.d₂… · 10 ^ exponent`, in notation. -/
def notate (digits : List Char) (exponent : Int) : List Char :=
  if -4 ≤ exponent ∧ exponent < 16 then
    if exponent < 0 then
      '0' :: '.' :: List.replicate (-exponent - 1).toNat '0' ++ digits
    else
      let whole := exponent.toNat + 1
      let fraction := digits.drop whole
      (digits.take whole) ++ List.replicate (whole - digits.length) '0' ++
        '.' :: (if fraction.isEmpty then ['0'] else fraction)
  else
    let size := (Nat.toDigits 10 exponent.natAbs).leftpad 2 '0'
    let tail := 'e' :: (if exponent < 0 then '-' else '+') :: size
    match digits with
    | [] => tail
    | [d] => d :: tail
    | d :: rest => d :: '.' :: rest ++ tail

/-- The decimal text of a number. -/
def text : Binary64 → String
  | .nan => "nan"
  | .infinite negative => if negative then "-inf" else "inf"
  | .finite negative m e =>
    let sign := if negative then "-" else ""
    match if m = 0 then none else shortest? m e with
    | none => sign ++ "0.0"
    | some (n, q) =>
      let (digits, dropped) := trimZeros (Nat.toDigits 10 n)
      sign ++ String.ofList (notate digits (q + dropped + digits.length - 1))

/-- The number nearest `± digits · 10 ^ exponent`. -/
def ofDecimal (negative : Bool) (digits : Nat) (exponent : Int) : Binary64 :=
  let magnitude := (digitCount digits : Int) + exponent
  if digits = 0 ∨ magnitude < -330 then zero negative
  else if 310 < magnitude then .infinite negative
  else
    let (num, den) := scaleDownByTen digits 1 (-exponent)
    ofQuotient negative num den

/-- A number rounded to one decimal place: the multiple of a tenth that is nearest
to it (a tie goes to the even one), as a binary64 number. -/
def toTenths : Binary64 → Binary64
  | .finite negative m e =>
    let (num, den) := scaleDown (10 * m) 1 (-e)
    ofQuotient negative (roundHalfEven num den) 10
  | x => x

end Binary64
end Recital
