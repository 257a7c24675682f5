/-
# A reset starts over

After a reset a draft is not the fresh one: it still has the volume from before, waits to
bring the full one about, and holds texts that belong to the segment at hand, which what
follows may go on with.  None of this can be heard.  What a list says after a reset is what
it says on its own, and what was said before the reset stays as it was
(`passagesBuilt_reset`).

For a reader there is nothing to show but that the source of choices, which a reset does not
take back, makes no difference to a list without templates (`read_rechosen`); that a draft
says what a reader says is `passages_of_buildSegments`.
-/

import Recital.Proofs.Draft.Failure

namespace Recital

/-- The passages of the segments that a list is built to. -/
def passagesBuilt (chooser : Chooser) (xs : List Instruction) : Except Error (List Passage) :=
  (buildSegments chooser xs).map (List.flatMap Segment.passages)

namespace Reader

/-- A reader with another source of choices. -/
def rechosen (r : Reader) (chooser : Chooser) : Reader := { r with chooser := chooser }

theorem finish_rechosen (r : Reader) (chooser : Chooser) (kind : Kind) :
    (r.rechosen chooser).finish kind =
      (r.finish kind).map fun (said, next) => (said, next.rechosen chooser) := by
  change (if kind ∈ r.nesting then _ else _) = Except.map _ (if kind ∈ r.nesting then _ else _)
  split <;> rfl

/-- A direct instruction draws nothing. -/
theorem step_rechosen {x : Instruction} (direct : x.isDirect) (r : Reader) (chooser : Chooser) :
    (r.rechosen chooser).step x =
      (r.step x).map fun (said, next) => (said, next.rechosen chooser) := by
  cases x with
  | turn dial level => cases dial <;> rfl
  | endSentence => exact finish_rechosen r chooser .sentence
  | endParagraph => exact finish_rechosen r chooser .paragraph
  | template document => cases direct
  | loop rounds => cases direct
  | foreign what => cases direct
  | _ => rfl

/-- **A list of direct instructions draws nothing,** so it is read alike whatever the
source of choices. -/
theorem read_rechosen {xs : List Instruction} (direct : ∀ x ∈ xs, x.isDirect) (r : Reader)
    (chooser : Chooser) :
    (r.rechosen chooser).read xs =
      (r.read xs).map fun (said, last) => (said, last.rechosen chooser) := by
  induction xs generalizing r with
  | nil => rfl
  | cons x xs ih =>
    have here := step_rechosen (direct x List.mem_cons_self) r chooser
    cases step : r.step x with
    | error error =>
      rw [step] at here
      rw [read_cons_error step, read_cons_error here]
      rfl
    | ok result =>
      obtain ⟨said, next⟩ := result
      rw [step] at here
      rw [read_cons_ok step, read_cons_ok here,
        ih fun y mem => direct y (List.mem_cons_of_mem _ mem)]
      cases next.read xs <;> rfl

/-- What a list says on its own, whatever the source of choices. -/
theorem passagesBuilt_eq {xs : List Instruction} (direct : ∀ x ∈ xs, x.isDirect)
    (chooser other : Chooser) :
    passagesBuilt chooser xs = (Reader.read { chooser := other } xs).map Prod.fst := by
  have alike := read_rechosen direct { chooser := other } chooser
  rw [passagesBuilt, passages_of_buildSegments]
  change (Reader.read (rechosen { chooser := other } chooser) xs).map Prod.fst = _
  rw [alike]
  cases Reader.read { chooser := other } xs <;> rfl

end Reader

/-- A list is refused just if it has no passages. -/
theorem buildSegments_eq_error_iff {chooser : Chooser} {xs : List Instruction} {error : Error} :
    buildSegments chooser xs = .error error ↔ passagesBuilt chooser xs = .error error := by
  rw [passagesBuilt]
  cases buildSegments chooser xs with
  | error failure => simp [Except.map]
  | ok segments => simp [Except.map]

/-- **A reset starts over.**  What a list says with a reset in it is what the part before
the reset says on its own, followed by what the part after it says on its own; it is refused
just if one of the parts is, and then because a part ends what is not open. -/
theorem passagesBuilt_reset {xs ys : List Instruction} (directBefore : ∀ x ∈ xs, x.isDirect)
    (directAfter : ∀ y ∈ ys, y.isDirect) (chooser first second : Chooser) :
    (passagesBuilt chooser (xs ++ .reset :: ys) = do
      let before ← passagesBuilt first xs
      let after ← passagesBuilt second ys
      return before ++ after) ∧
    ((∃ kind, buildSegments chooser (xs ++ .reset :: ys) = .error (.unmatchedEnd kind)) ↔
      (∃ kind, buildSegments first xs = .error (.unmatchedEnd kind)) ∨
        ∃ kind, buildSegments second ys = .error (.unmatchedEnd kind)) ∧
    ∀ error, buildSegments chooser (xs ++ .reset :: ys) = .error error →
      ∃ kind, error = .unmatchedEnd kind := by
  have direct : ∀ x ∈ xs ++ .reset :: ys, x.isDirect := by
    intro x mem
    rcases List.mem_append.1 mem with mem | mem
    · exact directBefore x mem
    · rcases List.mem_cons.1 mem with rfl | mem
      · rfl
      · exact directAfter x mem
  have joined : passagesBuilt chooser (xs ++ .reset :: ys) = do
      let before ← passagesBuilt first xs
      let after ← passagesBuilt second ys
      return before ++ after := by
    rw [Reader.passagesBuilt_eq direct chooser first,
      Reader.passagesBuilt_eq directBefore first first, Reader.read_append]
    cases Reader.read { chooser := first } xs with
    | error error => rfl
    | ok result =>
      obtain ⟨said, last⟩ := result
      change ((last.read (.reset :: ys) >>= fun m => pure (said ++ m.1, m.2)).map Prod.fst) =
        (passagesBuilt second ys >>= fun after => pure (said ++ after))
      rw [Reader.read_cons_ok rfl, Reader.passagesBuilt_eq directAfter second last.chooser]
      cases Reader.read { chooser := last.chooser } ys <;> rfl
  have unmatched : ∀ error, buildSegments chooser (xs ++ .reset :: ys) = .error error →
      ∃ kind, error = .unmatchedEnd kind := fun _ => unmatchedEnd_of_buildSegments direct
  refine ⟨joined, ?_, unmatched⟩
  simp only [buildSegments_eq_error_iff, joined]
  cases before : passagesBuilt first xs with
  | error error =>
    obtain ⟨kind, rfl⟩ :=
      unmatchedEnd_of_buildSegments directBefore (buildSegments_eq_error_iff.2 before)
    exact ⟨fun _ => .inl ⟨kind, rfl⟩, fun _ => ⟨kind, rfl⟩⟩
  | ok said =>
    cases after : passagesBuilt second ys with
    | error error =>
      obtain ⟨kind, rfl⟩ :=
        unmatchedEnd_of_buildSegments directAfter (buildSegments_eq_error_iff.2 after)
      exact ⟨fun _ => .inr ⟨kind, rfl⟩, fun _ => ⟨kind, rfl⟩⟩
    | ok more => exact ⟨nofun, by rintro (⟨_, ⟨⟩⟩ | ⟨_, ⟨⟩⟩)⟩

/-- The sentence, the voice and the volume from before a reset are gone after it, and what
is said before it keeps them. -/
theorem passagesBuilt_around_reset :
    let xs := [.turn .outputVolume 50, .voice (some ⟨"v", ""⟩), .beginSentence,
      .text [.ofChar 'a']]
    let ys := [.beginParagraph, .text [.ofChar 'b'], .turn .outputVolume 50, .interactive]
    (∀ x ∈ xs, x.isDirect) ∧ (∀ y ∈ ys, y.isDirect) ∧
      passagesBuilt (.scripted [] 0) (xs ++ .reset :: ys) = .ok [
        ⟨⟨some [.ofChar 'a'], 50, some ⟨"v", ""⟩, {}⟩, [.sentence]⟩,
        ⟨⟨some [.ofChar 'b'], 100, none, {}⟩, [.paragraph]⟩,
        ⟨⟨none, 50, none, {}⟩, []⟩] := by
  intro xs ys
  have directBefore : ∀ x ∈ xs, x.isDirect := by decide
  have directAfter : ∀ y ∈ ys, y.isDirect := by decide
  obtain ⟨joined, -, -⟩ := passagesBuilt_reset directBefore directAfter (.scripted [] 0)
    (.scripted [] 0) (.scripted [] 0)
  exact ⟨directBefore, directAfter, joined⟩

end Recital
