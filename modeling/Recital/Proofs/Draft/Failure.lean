/-
# Where a draft fails

A list of instructions fails at one of them, with the draft as the ones before it left it
(`applyAll_eq_error`).  Of the instructions that say themselves what they do, only the end
of a sentence and the end of a paragraph can fail, and they do so for one reason
(`apply_eq_error`).
-/

import Recital.Proofs.Reading.Structure

namespace Recital
namespace Draft

variable {d : Draft} {error : Error}

/-- **A list fails at one of its instructions,** after those before it were followed. -/
theorem applyAll_eq_error {xs : List Instruction} (h : d.applyAll xs = .error error) :
    ∃ before x after e, xs = before ++ x :: after ∧ d.applyAll before = .ok e ∧
      (e.apply x).2 = some error := by
  induction xs generalizing d with
  | nil => cases h
  | cons x xs ih =>
    rw [applyAll] at h
    split at h
    · rename_i next step
      obtain ⟨before, y, after, e, rfl, followed, fails⟩ := ih h
      refine ⟨x :: before, y, after, e, rfl, ?_, fails⟩
      rw [applyAll, step]
      exact followed
    · rename_i step
      cases h
      exact ⟨[], x, xs, d, rfl, rfl, by rw [step]⟩

theorem endStructure_eq_error {kind : Kind} (h : (d.endStructure kind).2 = some error) :
    error = .unmatchedEnd kind := by
  rw [endStructure] at h
  split at h
  · cases h
  · exact (Option.some.inj h).symm

/-- **Only an end fails,** because what it ends is not open. -/
theorem apply_eq_error {x : Instruction} (direct : x.isDirect) (h : (d.apply x).2 = some error) :
    (x = .endSentence ∧ error = .unmatchedEnd .sentence) ∨
      (x = .endParagraph ∧ error = .unmatchedEnd .paragraph) := by
  cases x with
  | endSentence => exact .inl ⟨rfl, endStructure_eq_error h⟩
  | endParagraph => exact .inr ⟨rfl, endStructure_eq_error h⟩
  | template document => cases direct
  | loop rounds => cases direct
  | foreign what => cases direct
  | _ => cases h

end Draft

theorem buildSegments_eq_error {chooser : Chooser} {xs : List Instruction} {error : Error}
    (h : buildSegments chooser xs = .error error) :
    Draft.applyAll { chooser := chooser } xs = .error error := by
  rw [buildSegments] at h
  cases followed : Draft.applyAll { chooser := chooser } xs with
  | error failure =>
    rw [followed] at h
    exact congrArg Except.error (Except.error.inj h)
  | ok d =>
    rw [followed] at h
    cases h

/-- A list of direct instructions that is refused ends what is not open. -/
theorem unmatchedEnd_of_buildSegments {chooser : Chooser} {xs : List Instruction} {error : Error}
    (direct : ∀ x ∈ xs, x.isDirect) (h : buildSegments chooser xs = .error error) :
    ∃ kind, error = .unmatchedEnd kind := by
  obtain ⟨before, x, after, d, rfl, -, fails⟩ := Draft.applyAll_eq_error (buildSegments_eq_error h)
  rcases Draft.apply_eq_error (direct x (by simp)) fails with ⟨-, rfl⟩ | ⟨-, rfl⟩
  · exact ⟨_, rfl⟩
  · exact ⟨_, rfl⟩

end Recital
