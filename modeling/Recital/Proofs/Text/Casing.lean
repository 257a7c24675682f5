/-
# A dash has no case

Lower case makes dashes of dashes and of nothing else.  A code point can become a dash in three
ways, and in none of them it does:

| code point | image | why it is no dash |
| --- | --- | --- |
| ASCII | its lower case | 128 cases |
| one with an expansion | the code points of the table | the table has none |
| any other | moved by the row that applies, or itself | rows move upwards, or from far above |

So a text that has a dash cannot occur in one that has none, case aside
(`not_occursIn_lower`).
-/

import Recital.Text.Casing
import Recital.Text.Pattern

namespace Recital
namespace Text

variable {before w : Words} {c : CodePoint} {token text : String}

/-- The dash, as a code point. -/
def dash : CodePoint := CodePoint.ofChar '-'

/-- What a table moves does not come to a place that no row reaches from above. -/
theorem Shifts.map_ne {t : Shifts} {n k : Nat} (above : k < n)
    (h : ∀ row ∈ t.rows, row.up = true ∨ k + row.distance < row.first) : t.map n ≠ k := by
  unfold Shifts.map
  split
  · rename_i row found
    have applies := List.find?_some found
    simp only [Shift.applies, Bool.and_eq_true, decide_eq_true_eq] at applies
    unfold Shift.target
    rcases h row (List.mem_of_find?_eq_some found) with up | far
    · rw [if_pos up]
      omega
    · split <;> omega
  · omega

theorem dash_mem_lowerPoint_ascii : ∀ n : Fin 128,
    dash ∈ lowerPoint ⟨n.val, by omega⟩ ↔ n.val = 0x2D := by
  decide +kernel

theorem ofNat_eq_dash {n : Nat} (h : CodePoint.ofNat n = dash) : n = 0x2D := by
  unfold CodePoint.ofNat at h
  split at h
  · exact congrArg CodePoint.toNat h
  · cases h

/-- **A code point has a dash in its lower case** just if it is one. -/
theorem dash_mem_lowerPoint_iff (c : CodePoint) : dash ∈ lowerPoint c ↔ c = dash := by
  by_cases ascii : c.toNat < 128
  · rw [dash_mem_lowerPoint_ascii ⟨c.toNat, ascii⟩]
    constructor
    · intro same
      cases c
      cases same
      rfl
    · rintro rfl
      rfl
  · have other : c ≠ dash := by
      rintro rfl
      exact ascii (by decide)
    refine iff_of_false (fun mem => ?_) other
    rw [lowerPoint, if_neg ascii, image] at mem
    split at mem
    · rename_i codes expanded
      have noDash : ∀ row ∈ lowerExpansions, dash ∉ row.2.map CodePoint.ofNat := by decide
      obtain ⟨front, back, split, -⟩ := List.lookup_eq_some_iff.1 expanded
      exact noDash (c.toNat, codes) (by rw [split]; simp) mem
    · refine Shifts.map_ne (t := lowerShifts) (n := c.toNat) (k := 0x2D) (by omega) ?_
        (ofNat_eq_dash (List.mem_singleton.1 mem).symm)
      decide +kernel

theorem dash_mem_lowerFrom_iff : dash ∈ lowerFrom before w ↔ dash ∈ w := by
  induction w generalizing before with
  | nil => simp [lowerFrom]
  | cons c w ih =>
    rw [lowerFrom, List.mem_append, ih, List.mem_cons]
    refine or_congr ?_ Iff.rfl
    split
    · rename_i sigma
      have image : dash ∉ Words.ofString "ς" ∧ dash ∉ Words.ofString "σ" := by decide
      have other : dash ≠ c := by
        rw [sigma]
        decide
      refine iff_of_false (fun mem => ?_) other
      split at mem
      · exact image.1 mem
      · exact image.2 mem
    · rw [dash_mem_lowerPoint_iff, eq_comm]

/-- The words of a text have a dash if the text has one. -/
theorem dash_mem_ofString_iff (s : String) : dash ∈ Words.ofString s ↔ '-' ∈ s.toList := by
  rw [Words.ofString, List.mem_map]
  constructor
  · rintro ⟨c, mem, same⟩
    have back := congrArg CodePoint.readable same
    rw [dash, CodePoint.readable_ofChar, CodePoint.readable_ofChar] at back
    rwa [← back]
  · exact fun mem => ⟨'-', mem, rfl⟩

/-- **A text with a dash** does not occur in one without, case aside. -/
theorem not_occursIn_lower (h : '-' ∈ token.toList) (none : '-' ∉ text.toList) :
    occursIn (lower token) (lower text) = false := by
  rw [Bool.eq_false_iff, ne_eq, occursIn_iff]
  intro inside
  have mem : dash ∈ lower (Words.ofString token) :=
    dash_mem_lowerFrom_iff.2 ((dash_mem_ofString_iff token).2 h)
  exact none ((dash_mem_ofString_iff text).1 (dash_mem_lowerFrom_iff.1 (inside.subset mem)))

end Text
end Recital
