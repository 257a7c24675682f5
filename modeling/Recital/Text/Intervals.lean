/-
# Sets of code points as intervals

A property of characters is a table of closed intervals of code points, and a
map of characters is a table of strided intervals with one displacement each:

| table | row | meaning |
| --- | --- | --- |
| `Intervals` | `(lo, hi)` | every code point from `lo` to `hi` has the property |
| `Shifts` | `(lo, hi, step, up, by)` | `lo`, `lo + step`, … `hi` move by `by`, upwards if `up` |

The tables themselves stand beside the functions that read them.
-/

namespace Recital
namespace Text

/-- A set of code points, as closed intervals in increasing order. -/
structure Intervals where
  bounds : List (Nat × Nat)

/-- Whether some interval of the table covers code point `n`. -/
def Intervals.covers (t : Intervals) (n : Nat) : Bool :=
  t.bounds.any fun b => b.1 ≤ n && n ≤ b.2

/-- One row of a displacement table: the code points from `first` to `last` in
steps of `step` move up or down by the same distance. -/
structure Shift where
  first : Nat
  last : Nat
  step : Nat
  up : Bool
  distance : Nat

/-- Whether the row says where `n` goes. -/
def Shift.applies (s : Shift) (n : Nat) : Bool :=
  s.first ≤ n && n ≤ s.last && (n - s.first) % s.step == 0

/-- Where the row sends a code point it applies to. -/
def Shift.target (s : Shift) (n : Nat) : Nat :=
  if s.up then n + s.distance else n - s.distance

/-- A displacement table. -/
structure Shifts where
  rows : List Shift

/-- The image of `n`: moved by the first row that applies, or left alone. -/
def Shifts.map (t : Shifts) (n : Nat) : Nat :=
  match t.rows.find? (·.applies n) with
  | some row => row.target n
  | none => n

theorem Intervals.covers_iff (t : Intervals) (n : Nat) :
    t.covers n = true ↔ ∃ b ∈ t.bounds, b.1 ≤ n ∧ n ≤ b.2 := by
  simp [Intervals.covers, List.any_eq_true]

end Text
end Recital
