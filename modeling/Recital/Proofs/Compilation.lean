/-
# How compiling can end

Compiling could fail in many ways: a scaled volume could be out of range, a loop could be
left over, scopes could be closed that are not there, the check of the segments could
object, and a segment that was compiled could carry a level for which there is no word.  Of
all of these only one comes about (`compile_outcome`): an instruction ends a sentence or a
paragraph that is not open.

| what could fail | why it does not |
| --- | --- |
| unrolling | rounding does not pass a bound (`Instruction.exists_expandLoops`) |
| following an instruction that is left | all are direct (`Draft.apply_eq_error`) |
| closing down to a scope | it is done only where one of the kind is open |
| the check | segments are complete (`settled_of_buildSegments`) |
| writing and speaking segments | they are in range (`inRange_of_buildSegments`) |
-/

import Recital.Proofs.Draft.Failure
import Recital.Proofs.Draft.Levels
import Recital.Proofs.Instruction.Scaling

namespace Recital

namespace Instruction

/-- Moving settings to the front adds no instruction. -/
theorem mem_of_mem_leadSettings {xs : List Instruction} {x : Instruction}
    (h : x ∈ (leadSettings xs).1) : x ∈ xs := by
  rw [leadSettings] at h
  dsimp only at h
  split at h
  · exact h
  · split at h
    · exact h
    · rcases List.mem_append.1 h with mem | mem
      · exact List.mem_of_mem_drop mem
      · exact List.mem_of_mem_take mem

/-- What is left when loops are unrolled is direct, if all the rest was. -/
theorem isDirect_of_mem_expandLoops {xs ys : List Instruction}
    (valid : ∀ x ∈ xs, x.isDirect ∨ x.isLoop) (ok : expandLoops xs = .ok ys) :
    ∀ y ∈ ys, y.isDirect := by
  refine forall_mem_expandLoops rfl (fun _ => rfl) (fun x mem loops => ?_) ok
  exact (valid x mem).resolve_right (by simp [loops])

end Instruction

namespace Draft

/-- Whether closing scopes innermost first, down to a kind that is open, ends at a scope of
that kind before the scopes run out. -/
def ClosesThrough (d : Draft) : Prop :=
  ∀ kind, (d.scopes.any fun s => s.kind = kind) → ∃ inside found around,
    Scope.splitAt? kind d.scopes = some (inside, found, around) ∧
      d.scopes = inside ++ found :: around ∧ found.kind = kind

theorem closesThrough (d : Draft) : d.ClosesThrough := by
  intro kind isOpen
  cases split : Scope.splitAt? kind d.scopes with
  | none =>
    obtain ⟨s, mem, same⟩ := List.any_eq_true.1 isOpen
    exact absurd (of_decide_eq_true same) (Scope.splitAt?_eq_none split s mem)
  | some parts =>
    obtain ⟨inside, found, around⟩ := parts
    obtain ⟨scopes, foundKind, -⟩ := Scope.splitAt?_eq_some split
    exact ⟨inside, found, around, rfl, scopes, foundKind⟩

end Draft

namespace Segment

/-- The styles that a segment carries: those of the scopes that its events open and close,
and that of its live input. -/
def styles (s : Segment) : List Style :=
  (s.events.filterMap fun
    | .opening scope | .closing scope => scope.style?
    | .text _ => none) ++
  s.interactive.toList.map Context.style

/-- Whether a regular segment can be written in any language and all that it says can be
spoken. -/
structure Rendered (s : Segment) : Prop where
  document : ∀ lang, ∃ text, s.ssml lang = .ok text
  prosody : ∀ run ∈ s.runs, ∃ prosody, run.style.prosody = .ok prosody

/-- Whether a segment can be delivered: its volume and its styles are in range, and it can
be written and spoken, or the prompt for each line of its live input can. -/
structure Deliverable (s : Segment) : Prop where
  volume : 0 ≤ s.volume ∧ s.volume ≤ 100
  styles : ∀ style ∈ s.styles, style.InRange
  regular : s.interactive = none → s.Rendered
  live : ∀ context ∈ s.interactive, s.runs = [] ∧
    ∀ line, (context.prompt line s.volume).Rendered

theorem InRange.rendered {s : Segment} (h : s.InRange) (regular : s.interactive = none) :
    s.Rendered :=
  ⟨exists_ssml h.events regular, fun _ => exists_prosody_of_mem_runs h.events⟩

theorem InRange.styles {s : Segment} (h : s.InRange) : ∀ style ∈ s.styles, style.InRange := by
  refine List.forall_mem_append.2 ⟨fun style mem => ?_, fun style mem => ?_⟩
  · obtain ⟨e, memEvent, found⟩ := List.mem_filterMap.1 mem
    have range := h.events e memEvent
    rcases e with (_ | set | _ | _) | words | (_ | set | _ | _) <;> cases found <;> exact range
  · obtain ⟨context, memContext, rfl⟩ := List.mem_map.1 mem
    exact h.context context (Option.mem_toList.1 memContext)

/-- **A complete segment in range can be delivered.** -/
theorem InRange.deliverable {s : Segment} (h : s.InRange) (settled : s.Settled) :
    s.Deliverable where
  volume := h.volume
  styles := h.styles
  regular := h.rendered
  live := by
    intro context mem
    have silent : s.events = [] := by
      rcases settled.purpose with ⟨-, silent⟩ | ⟨regular, -⟩
      · exact silent
      · rw [regular] at mem
        cases mem
    refine ⟨by rw [runs, silent]; rfl, fun line => ?_⟩
    obtain ⟨range, regular⟩ := inRange_prompt (h.context context mem) h.volume line
    exact range.rendered regular

end Segment

/-- What is built passes the check. -/
theorem buildChecked_eq (chooser : Chooser) (xs : List Instruction) :
    buildChecked chooser xs = buildSegments chooser xs := by
  rw [buildChecked]
  cases built : buildSegments chooser xs with
  | error error => rfl
  | ok segments =>
    change (checkAll segments >>= fun _ => pure segments) = _
    rw [checkAll_of_settled (settled_of_buildSegments built)]
    rfl

/-- Compiling is unrolling what is arranged and building it. -/
theorem compile_result (chooser : Chooser) (xs : List Instruction) :
    (compile chooser xs).result =
      Instruction.expandLoops (Instruction.leadSettings xs).1 >>= buildSegments chooser := by
  rw [compile]
  rcases Instruction.leadSettings xs with ⟨arranged, moved⟩
  dsimp only
  cases Instruction.expandLoops arranged with
  | error error => rfl
  | ok expanded =>
    dsimp only
    rw [buildChecked_eq]
    change _ = buildSegments chooser expanded
    cases buildSegments chooser expanded <;> rfl

/-- What a result is built from. -/
theorem exists_built_of_compile {chooser : Chooser} {xs : List Instruction}
    {segments : List Segment} (ok : (compile chooser xs).result = .ok segments) :
    ∃ expanded, Instruction.expandLoops (Instruction.leadSettings xs).1 = .ok expanded ∧
      buildSegments chooser expanded = .ok segments := by
  rw [compile_result] at ok
  exact Except.bind_eq_ok.1 ok

/-- **How compiling can end.**  Instructions that are direct or loops are unrolled to direct
instructions.  Following these keeps the draft sound: what is closed is what is open
innermost, and closing down to a kind that is open ends there.  It either goes well, and
then each segment passes the check and can be delivered, or some instruction ends a sentence
or a paragraph that is not open, and compiling fails because of that. -/
theorem compile_outcome (chooser : Chooser) {xs : List Instruction}
    (valid : ∀ x ∈ xs, x.isDirect ∨ x.isLoop) :
    ∃ expanded, Instruction.expandLoops (Instruction.leadSettings xs).1 = .ok expanded ∧
      (∀ x ∈ expanded, x.isDirect) ∧
      (∀ before x after d, expanded = before ++ x :: after →
        Draft.applyAll { chooser := chooser } before = .ok d →
          (d.apply x).1.Sound ∧ d.applySchedule.ClosesThrough) ∧
      ((∃ segments, (compile chooser xs).result = .ok segments ∧
          ∀ s ∈ segments, s.checkBalanced = .ok () ∧ s.Deliverable) ∨
        ∃ before x after d kind, expanded = before ++ x :: after ∧
          Draft.applyAll { chooser := chooser } before = .ok d ∧
          (x = .endSentence ∧ kind = .sentence ∨ x = .endParagraph ∧ kind = .paragraph) ∧
          (d.apply x).2 = some (.unmatchedEnd kind) ∧
          (compile chooser xs).result = .error (.unmatchedEnd kind)) := by
  obtain ⟨expanded, unrolled⟩ :=
    Instruction.exists_expandLoops (Instruction.leadSettings xs).1
  have direct : ∀ x ∈ expanded, x.isDirect :=
    Instruction.isDirect_of_mem_expandLoops
      (fun x mem => valid x (Instruction.mem_of_mem_leadSettings mem)) unrolled
  have result : (compile chooser xs).result = buildSegments chooser expanded := by
    rw [compile_result, unrolled]
    rfl
  refine ⟨expanded, unrolled, direct, ?_, ?_⟩
  · intro before x after d _ followed
    have sound : d.Sound :=
      Draft.applyAll_eq_ok followed ▸ (Draft.sound_fresh chooser).applyEach before
    exact ⟨sound.apply x, d.applySchedule.closesThrough⟩
  · rw [result]
    cases built : buildSegments chooser expanded with
    | ok segments =>
      refine .inl ⟨segments, rfl, fun s mem => ?_⟩
      have settled := settled_of_buildSegments built s mem
      exact ⟨Segment.checkBalanced_of_whole settled.whole,
        (inRange_of_buildSegments built s mem).deliverable settled⟩
    | error error =>
      obtain ⟨before, x, after, d, rfl, followed, fails⟩ :=
        Draft.applyAll_eq_error (buildSegments_eq_error built)
      have unmatched := Draft.apply_eq_error (direct x (by simp)) fails
      rcases unmatched with ⟨ends, rfl⟩ | ⟨ends, rfl⟩
      · exact .inr ⟨before, x, after, d, .sentence, rfl, followed, .inl ⟨ends, rfl⟩, fails, rfl⟩
      · exact .inr ⟨before, x, after, d, .paragraph, rfl, followed, .inr ⟨ends, rfl⟩, fails, rfl⟩

/-- Three rounds that fade in, with a style, live input and settings at the end. -/
theorem deliverable_of_three_rounds :
    let xs := [.turn .rate 5, .beginParagraph, .text [.ofChar 'a'], .turn .outputVolume 99,
      .interactive, .loop ⟨3, .fadeIn, by decide⟩, .voice (some ⟨"v", ""⟩)]
    (∀ x ∈ xs, x.isDirect ∨ x.isLoop) ∧
      ∃ segments, (compile (.scripted [] 0) xs).result = .ok segments ∧ segments.length = 6 ∧
        ∀ s ∈ segments, s.checkBalanced = .ok () ∧ s.Deliverable := by
  intro xs
  have valid : ∀ x ∈ xs, x.isDirect ∨ x.isLoop := by decide
  have six : (compile (.scripted [] 0) xs).result.map List.length = .ok 6 := rfl
  obtain ⟨_, _, _, _, ⟨segments, ok, delivered⟩ | ⟨_, _, _, _, _, _, _, _, _, failed⟩⟩ :=
    compile_outcome (.scripted [] 0) valid
  · rw [ok] at six
    exact ⟨valid, segments, ok, Except.ok.inj six, delivered⟩
  · rw [failed] at six
    cases six

end Recital
