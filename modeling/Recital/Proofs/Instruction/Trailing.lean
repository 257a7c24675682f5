/-
# Settings behind a list are settings in front of it

Every list is a rest that does not end in a setting and a run of settings behind it, and moving
the trailing settings swaps the two (`leadSettings_append`).  So what comes out depends on the
rest and the run alone:

| list | rest | run |
| --- | --- | --- |
| `rest ++ run` | `rest` | `run` |
| settings `ss` behind it | `rest` | `run ++ ss` |
| settings `ss` in front of it | `ss ++ rest` | `run` |
| `run ++ rest`, which came out | `run ++ rest` | none |

The second and the third come out the same, and the last one as it is.  The table needs a
rest that is not empty; a list of settings only is left alone.
-/

import Recital.Proofs.Compilation
import Mathlib.Data.List.DropRight

namespace Recital
namespace Instruction

/-- Whether a list does not end in a setting. -/
def EndsUnset (xs : List Instruction) : Prop := ∀ x ∈ xs.getLast?, x.isControl = false

variable {rest run xs ss : List Instruction}

theorem EndsUnset.append (h : EndsUnset rest) (nonempty : rest ≠ []) (xs : List Instruction) :
    EndsUnset (xs ++ rest) := by
  unfold EndsUnset
  rwa [List.getLast?_append_of_ne_nil _ nonempty]

/-- **Every list** is a rest that does not end in a setting and settings behind it. -/
theorem exists_rest_run (xs : List Instruction) :
    ∃ rest run, xs = rest ++ run ∧ EndsUnset rest ∧ ∀ x ∈ run, x.isControl = true := by
  refine ⟨xs.rdropWhile isControl, xs.rtakeWhile isControl,
    List.rdropWhile_append_rtakeWhile.symm, fun x last => ?_,
    fun x mem => List.mem_rtakeWhile_imp mem⟩
  obtain ⟨nonempty, rfl⟩ := List.mem_getLast?_eq_getLast last
  simpa using List.rdropWhile_last_not isControl xs nonempty

theorem trailingCount_append (h : EndsUnset rest) (settings : ∀ x ∈ run, x.isControl = true) :
    trailingCount (rest ++ run) = run.length := by
  have stops : rest.reverse.takeWhile isControl = [] := by
    cases last : rest.reverse with
    | nil => rfl
    | cons x front =>
      have unset : x.isControl = false := h x (by rw [← List.head?_reverse, last]; rfl)
      rw [List.takeWhile_cons, unset]
      rfl
  rw [trailingCount, List.reverse_append, List.takeWhile_append_of_pos (by simpa using settings),
    stops]
  simp

/-- **Trailing settings change places with the rest,** and it is reported which of the two
there are. -/
theorem leadSettings_append (h : EndsUnset rest) (settings : ∀ x ∈ run, x.isControl = true) :
    leadSettings (rest ++ run) = (run ++ rest,
      if run.isEmpty then [] else if rest.isEmpty then [.nothingToRead]
      else [.settingsMoved run.length]) := by
  unfold leadSettings
  rw [trailingCount_append h settings]
  dsimp only
  rw [List.length_append, Nat.add_sub_cancel, List.drop_left, List.take_left]
  cases run with
  | nil => simp
  | cons x run =>
    cases rest with
    | nil => simp
    | cons y rest =>
      rw [if_neg (by simp), if_neg (by simp only [List.length_cons]; omega)]
      rfl

/-- **Settings behind a list that has something else** come to stand where settings in front
of it stand. -/
theorem leadSettings_behind (other : ∃ x ∈ xs, x.isControl = false)
    (settings : ∀ s ∈ ss, s.isControl = true) :
    (leadSettings (xs ++ ss)).1 = (leadSettings (ss ++ xs)).1 := by
  obtain ⟨rest, run, rfl, unset, control⟩ := exists_rest_run xs
  have nonempty : rest ≠ [] := by
    rintro rfl
    obtain ⟨x, mem, speaks⟩ := other
    rw [control x (by simpa using mem)] at speaks
    cases speaks
  rw [List.append_assoc rest,
    leadSettings_append unset (List.forall_mem_append.2 ⟨control, settings⟩), ← List.append_assoc ss,
    leadSettings_append (unset.append nonempty ss) control]
  exact List.append_assoc ..

/-- What has been rearranged is left as it is. -/
theorem leadSettings_again (unset : EndsUnset rest) (control : ∀ x ∈ run, x.isControl = true) :
    (leadSettings (run ++ rest)).1 = run ++ rest := by
  by_cases empty : rest = []
  · subst empty
    have still := leadSettings_append unset control
    rw [List.nil_append, ← List.append_nil run] at still
    rw [still, List.append_nil]
  · have nothing : ∀ x ∈ ([] : List Instruction), x.isControl = true := by simp
    have still := leadSettings_append (unset.append empty run) nothing
    rw [List.append_nil] at still
    rw [still, List.nil_append]

/-- What is rearranged ends in a setting only if there is nothing else. -/
theorem control_of_last (unset : EndsUnset rest) (control : ∀ x ∈ run, x.isControl = true)
    {last : Instruction} (h : last ∈ (run ++ rest).getLast?) (set : last.isControl = true) :
    ∀ x ∈ rest ++ run, x.isControl = true := by
  by_cases empty : rest = []
  · simpa [empty] using control
  · rw [unset.append empty run last h] at set
    cases set

end Instruction

open Instruction

/-- **Trailing settings are leading ones.**  A list is a rest that does not end in a setting and
settings behind it; rearranging swaps the two, each in its own order, and so gives a permutation
of the list that is not changed by rearranging it again and ends in a setting only if there is
nothing but settings.  If there is something else, settings behind the list come to stand where
settings in front of it do, and compiling gives the same segments or fails in the same way. -/
theorem leadSettings_and_compile (xs : List Instruction) :
    (∃ rest run, xs = rest ++ run ∧ (∀ x ∈ rest.getLast?, x.isControl = false) ∧
      (∀ x ∈ run, x.isControl = true) ∧ (leadSettings xs).1 = run ++ rest) ∧
    (leadSettings xs).1.Perm xs ∧
    (leadSettings (leadSettings xs).1).1 = (leadSettings xs).1 ∧
    (∀ last ∈ (leadSettings xs).1.getLast?, last.isControl = true →
      ∀ x ∈ xs, x.isControl = true) ∧
    ((∃ x ∈ xs, x.isControl = false) → ∀ ss : List Instruction, (∀ s ∈ ss, s.isControl = true) →
      (leadSettings (xs ++ ss)).1 = (leadSettings (ss ++ xs)).1 ∧
      ∀ chooser, (compile chooser (xs ++ ss)).result = (compile chooser (ss ++ xs)).result) := by
  obtain ⟨rest, run, whole, unset, control⟩ := exists_rest_run xs
  have arranged : (leadSettings xs).1 = run ++ rest := by
    rw [whole, leadSettings_append unset control]
  rw [arranged]
  refine ⟨⟨rest, run, whole, unset, control, rfl⟩, ?_, leadSettings_again unset control, ?_, ?_⟩
  · rw [whole]
    exact List.perm_append_comm
  · rw [whole]
    exact fun last => control_of_last unset control
  · intro other ss settings
    have same := leadSettings_behind other settings
    exact ⟨same, fun chooser => by rw [compile_result, compile_result, same]⟩

/-- Two settings behind a text that has one setting in front and one behind. -/
theorem leadSettings_around_text :
    let xs := [.turn .rate 1, .text [.ofChar 'a'], .voice none]
    let ss := [.reset, outputVolume 50]
    (∃ x ∈ xs, x.isControl = false) ∧ (∀ s ∈ ss, s.isControl = true) ∧
      (leadSettings (xs ++ ss)).1 =
        [.voice none, .reset, outputVolume 50, .turn .rate 1, .text [.ofChar 'a']] ∧
      (leadSettings (xs ++ ss)).1 = (leadSettings (ss ++ xs)).1 ∧
      ∀ chooser, (compile chooser (xs ++ ss)).result = (compile chooser (ss ++ xs)).result := by
  intro xs ss
  have other : ∃ x ∈ xs, x.isControl = false := ⟨.text [.ofChar 'a'], by simp [xs], rfl⟩
  have settings : ∀ s ∈ ss, s.isControl = true := by decide
  obtain ⟨-, -, -, -, behind⟩ := leadSettings_and_compile xs
  exact ⟨other, settings, rfl, behind other ss settings⟩

end Recital
