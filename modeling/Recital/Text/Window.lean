/-
# Windows on a text

A text that is searched for the same token after each of its replacements need not be
searched as a whole.  A window holds every index at which the token may stand:

| event | window |
| --- | --- |
| nothing is known of the text | the whole text |
| the token does not occur | no index |
| its leftmost occurrence is at `k` | the indices from `k` on |
| a stretch is replaced | the same places, and those from which the token would touch what came in |

`Covers` says that a window misses no occurrence; each row of the table keeps it.
-/

import Recital.Text.Occurrence

namespace Recital
namespace Text

/-- The indices from `first` on and before `bound`. -/
structure Window where
  first : Nat
  bound : Nat
  deriving DecidableEq

namespace Window

/-- Whether an index is in a window. -/
def Has (w : Window) (k : Nat) : Prop := w.first ≤ k ∧ k < w.bound

/-- The window on a whole text. -/
def whole (text : Words) : Window := ⟨0, text.length + 1⟩

/-- The window without indices. -/
def nowhere : Window := ⟨0, 0⟩

/-- The indices of a window from `k` on. -/
def startingAt (w : Window) (k : Nat) : Window := { w with first := k }

/-- The window for a token of `size` code points after `brought` of them came in place
of the `gone` ones from index `i` on. -/
def afterReplacement (w : Window) (size i gone brought : Nat) : Window :=
  if w.first < w.bound then
    ⟨min w.first (i - (size - 1)), max (w.bound + brought - gone) (i + brought)⟩
  else ⟨i - (size - 1), i + brought⟩

/-- Whether a window has every index of a text at which a token stands. -/
def Covers (w : Window) (token text : Words) : Prop :=
  ∀ k ≤ text.length, token <+: text.drop k → w.Has k

theorem covers_whole (token text : Words) : (whole text).Covers token text :=
  fun k le _ => ⟨Nat.zero_le k, Nat.lt_succ_of_le le⟩

theorem covers_nowhere {token text : Words} (h : indexOf? token text = none) (w : Window) :
    w.Covers token text := by
  intro k _ stands
  have absent := (indexOf?_eq_none_iff token text).1 h
  exact absurd (stands.isInfix.trans (List.drop_suffix k text).isInfix) absent

theorem covers_startingAt {w : Window} {token text : Words} {i : Nat}
    (covers : w.Covers token text) (h : indexOf? token text = some i) :
    (w.startingAt i).Covers token text := by
  intro k le stands
  have leftmost := ((indexOf?_eq_some_iff token text i).1 h).2
  exact ⟨Nat.le_of_not_lt fun lt => leftmost k lt stands, (covers k le stands).2⟩

/-- A token that stands before what came in stood there before. -/
theorem stands_before {token text rest : Words} {i k : Nat} (le : i ≤ text.length)
    (before : k + token.length ≤ i) (stands : token <+: (text.take i ++ rest).drop k) :
    token <+: text.drop k := by
  have length : (text.take i).length = i := by rw [List.length_take]; omega
  rw [List.drop_append_of_le_length (by omega)] at stands
  have inside : token <+: (text.take i).drop k :=
    List.prefix_of_prefix_length_le stands (List.prefix_append _ _)
      (by rw [List.length_drop]; omega)
  rw [List.drop_take] at inside
  exact inside.trans (List.take_prefix _ _)

/-- **A window follows a replacement:** it still misses no occurrence. -/
theorem covers_afterReplacement {w : Window} {token text : Words} {i gone : Nat}
    (brought : Words) (covers : w.Covers token text) (le : i + gone ≤ text.length) :
    (w.afterReplacement token.length i gone brought.length).Covers token
      (text.take i ++ brought ++ text.drop (i + gone)) := by
  intro k inside stands
  have length : (text.take i).length = i := by rw [List.length_take]; omega
  rw [List.length_append, List.length_append, length, List.length_drop] at inside
  by_cases behind : i + brought.length ≤ k
  · have shift : (text.take i ++ brought ++ text.drop (i + gone)).drop k =
        text.drop (k - brought.length + gone) := by
      rw [List.drop_append, List.drop_eq_nil_of_le (by rw [List.length_append]; omega),
        List.nil_append, List.drop_drop, List.length_append, length]
      congr 1
      omega
    rw [shift] at stands
    have old := covers _ (by omega) stands
    unfold Has at old
    unfold Has afterReplacement
    rw [if_pos (by omega)]
    dsimp only
    omega
  · by_cases before : k + token.length ≤ i
    · have old := covers k (by omega)
        (stands_before (by omega) before (by rwa [List.append_assoc] at stands))
      unfold Has at old
      unfold Has afterReplacement
      rw [if_pos (by omega)]
      dsimp only
      omega
    · unfold Has afterReplacement
      split <;> dsimp only <;> omega

end Window
end Text
end Recital
