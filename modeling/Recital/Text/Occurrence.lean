/-
# Occurrences of one text in another

The leftmost occurrence of a token in a text, found by looking at one place after the
other.  `indexOf?_eq_some_iff` says what is found and `indexOf?_eq_none_iff` when
nothing is.
-/

import Recital.Words

namespace Recital
namespace Text

/-- The place of the leftmost occurrence of a token in a text whose first code point
has the place `i`. -/
def indexFrom (token : Words) (i : Nat) : (text : Words) → Option Nat
  | [] => if token.isEmpty then some i else none
  | c :: text => if token.isPrefixOf (c :: text) then some i else indexFrom token (i + 1) text

/-- The index of the leftmost occurrence of a token in a text. -/
def indexOf? (token text : Words) : Option Nat := indexFrom token 0 text

theorem le_of_indexFrom {token text : Words} {i k : Nat}
    (h : indexFrom token i text = some k) : i ≤ k := by
  induction text generalizing i with
  | nil =>
    simp only [indexFrom] at h
    split at h <;> simp_all
  | cons c text ih =>
    unfold indexFrom at h
    split at h
    · simp_all
    · have := ih h
      omega

theorem indexFrom_eq_some_iff (token text : Words) (i k : Nat) :
    indexFrom token i text = some (i + k) ↔
      token <+: text.drop k ∧ ∀ j < k, ¬ token <+: text.drop j := by
  induction text generalizing i k with
  | nil =>
    cases token with
    | nil =>
      cases k with
      | zero => simp [indexFrom]
      | succ k =>
        simp only [indexFrom, List.isEmpty_nil, if_true, Option.some.injEq]
        refine ⟨fun h => by omega, fun h => absurd List.nil_prefix (h.2 0 (by omega))⟩
    | cons x token => simp [indexFrom]
  | cons c text ih =>
    unfold indexFrom
    split
    · rename_i h
      have stands : token <+: c :: text := List.isPrefixOf_iff_prefix.1 h
      cases k with
      | zero => simp [stands]
      | succ k =>
        refine ⟨fun found => ?_, fun found => absurd stands (found.2 0 (by omega))⟩
        have := Option.some.inj found
        omega
    · rename_i h
      have absent : ¬ token <+: c :: text := fun p => h (List.isPrefixOf_iff_prefix.2 p)
      cases k with
      | zero =>
        refine ⟨fun found => ?_, fun found => absurd found.1 absent⟩
        have := le_of_indexFrom found
        omega
      | succ k =>
        rw [show i + (k + 1) = i + 1 + k by omega, ih]
        refine and_congr Iff.rfl ⟨fun found j lt => ?_, fun found j lt => found (j + 1) (by omega)⟩
        cases j with
        | zero => exact absent
        | succ j => exact found j (by omega)

/-- **What is found is the leftmost occurrence:** the token stands at the index, and
at no index before it. -/
theorem indexOf?_eq_some_iff (token text : Words) (k : Nat) :
    indexOf? token text = some k ↔ token <+: text.drop k ∧ ∀ j < k, ¬ token <+: text.drop j := by
  have := indexFrom_eq_some_iff token text 0 k
  rwa [Nat.zero_add] at this

theorem indexFrom_le {token text : Words} {i k : Nat}
    (h : indexFrom token i text = some k) : k ≤ i + text.length := by
  induction text generalizing i with
  | nil =>
    simp only [indexFrom] at h
    split at h <;> simp_all
  | cons c text ih =>
    unfold indexFrom at h
    split at h
    · have := Option.some.inj h
      omega
    · have := ih h
      rw [List.length_cons]
      omega

/-- An occurrence does not start behind the end of the text. -/
theorem indexOf?_le {token text : Words} {k : Nat} (h : indexOf? token text = some k) :
    k ≤ text.length := by
  have := indexFrom_le h
  omega

theorem indexFrom_eq_none_iff (token text : Words) (i : Nat) :
    indexFrom token i text = none ↔ ¬ token <:+: text := by
  induction text generalizing i with
  | nil => cases token <;> simp [indexFrom]
  | cons c text ih =>
    unfold indexFrom
    split
    · rename_i h
      simp [(List.isPrefixOf_iff_prefix.1 h).isInfix]
    · rename_i h
      have absent : ¬ token <+: c :: text := fun p => h (List.isPrefixOf_iff_prefix.2 p)
      rw [ih, List.infix_cons_iff]
      simp [absent]

/-- **Nothing is found only where the token does not occur.** -/
theorem indexOf?_eq_none_iff (token text : Words) :
    indexOf? token text = none ↔ ¬ token <:+: text := indexFrom_eq_none_iff token text 0

end Text
end Recital
