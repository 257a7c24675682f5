/-
# Sources of choices

Expanding a template picks elements of lists.  Where the picks come from is a
value that is handed through: a generator, or a script that lists them in advance.
A script is read round and round, each entry is taken modulo the length of the
list at hand, and an empty script picks the first element always.

With the source goes the room that there is for things inside one another.  Reading a
document takes a call for each container that is open, rendering a value some calls for
each array that it goes into, and calls may only nest so deep.  How many are left depends
on those that are under way, so the room is given and no part of a result.
-/

import Recital.Random.Twister

namespace Recital

/-- Where choices come from.  A script counts the choices that were made. -/
inductive Choices where
  | scripted (picks : List Int) (made : Nat)
  | generated (twister : Twister)

/-- How deep containers of a document may nest that is read, and how deep arrays of a
value that is rendered. -/
structure Room where
  containers : Nat := 0
  arrays : Nat := 0
  deriving DecidableEq

/-- What expansions go by: the choices to come, and the room there is. -/
structure Chooser where
  choices : Choices
  room : Room := {}

namespace Chooser

/-- The source of choices that a script lists. -/
def scripted (picks : List Int) (made : Nat) (room : Room := {}) : Chooser :=
  ⟨.scripted picks made, room⟩

/-- The source of choices that a seed starts. -/
def ofSeed (seed : Int) (room : Room := {}) : Chooser := ⟨.generated (.ofSeed seed), room⟩

/-- The most draws that one choice can take.  A draw of `k` bits for a list of
length `n ≥ 2 ^ (k - 1)` is rejected only when its top bit is set, and the
generator has no run of more such words than its state has bits. -/
def attempts : Nat := 19938

/-- The number of binary digits of `n`. -/
def bitLength (n : Nat) : Nat := if n = 0 then 0 else n.log2 + 1

/-- The next entry of a script for a list of length `n`. -/
def scriptedPick (picks : List Int) (made n : Nat) : Nat :=
  match picks[made % picks.length]? with
  | some pick => (pick % (n : Int)).toNat
  | none => 0

/-- An index into a list of length `n`, and the source for the choices after it. -/
def choose (c : Chooser) (n : Nat) : Nat × Chooser :=
  match c.choices with
  | .scripted picks made =>
    (scriptedPick picks made n, { c with choices := .scripted picks (made + 1) })
  | .generated twister =>
    let drawn := twister.below n (bitLength n) attempts
    (drawn.1, { c with choices := .generated drawn.2 })

/-- The number of choices made, where the source counts them. -/
def made? (c : Chooser) : Option Nat :=
  match c.choices with
  | .scripted _ made => some made
  | .generated _ => none

theorem below_lt {n : Nat} (bits : Nat) (h : 0 < n) (attempts : Nat) (t : Twister) :
    (Twister.below n bits attempts t).1 < n := by
  induction attempts generalizing t with
  | zero => exact h
  | succ attempts ih =>
    simp only [Twister.below]
    split
    · assumption
    · exact ih _

/-- **A choice is an index of the list,** whatever the source. -/
theorem choose_lt (c : Chooser) {n : Nat} (h : 0 < n) : (c.choose n).1 < n := by
  obtain ⟨choices, room⟩ := c
  cases choices with
  | generated t => exact below_lt _ h _ t
  | scripted picks made =>
    simp only [choose, scriptedPick]
    split
    · have := Int.emod_lt_of_pos ‹Int› (Int.natCast_pos.2 h)
      have := Int.emod_nonneg ‹Int› (Int.natCast_ne_zero.2 (Nat.ne_of_gt h))
      omega
    · exact h

end Chooser
end Recital
