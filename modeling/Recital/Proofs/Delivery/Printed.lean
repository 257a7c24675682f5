/-
# Printing and speaking go through the same prompts

Segments are printed and delivered by two traversals of their own.  They have different tests
on the way: a delivery passes over a segment without text, printing does not.  Compiled
segments have nothing to pass over, though, and both traversals hand the lines of input to
live input in the same way.  So both go through the prompts of `prompts`, one by one:

| | of each prompt |
| --- | --- |
| printed | its document, under the heading of the segment |
| asked of the engine | its runs, with their voices and prosodies |
| handed on | what the engine recorded for them, decoded, joined and at its volume |

Which prompts there are does not depend on the engine.  That a delivery gets to the end of them
does: the engine has to say each run and its recordings have to be decoded, and for a prompt of
several runs they also have to come in one format.
-/

import Recital.Delivery.Printing
import Recital.Proofs.Delivery.Performance

namespace Recital

/-- The document of a prompt. -/
def Segment.document (s : Segment) : Words :=
  match s.ssml Segment.language with
  | .ok text => text
  | .error _ => []

theorem Segment.Rendered.ssml_eq {s : Segment} (h : s.Rendered) :
    s.ssml Segment.language = .ok s.document := by
  obtain ⟨text, ok⟩ := h.document Segment.language
  rw [Segment.document, ok]

namespace Printing

theorem document_eq {s : Segment} (h : s.Rendered) : document s = ⟨[s.document], none⟩ := by
  rw [document, h.ssml_eq]

/-- A sheet that did not fail goes on with the next one. -/
theorem Sheet.then_mk (lines : List Words) (second : Sheet) :
    Sheet.then ⟨lines, none⟩ second = ⟨lines ++ second.lines, second.error⟩ := rfl

/-- The documents of lines are those of their prompts. -/
theorem inputDocuments_eq (context : Context) (volume : Int) (lines : List String)
    (h : ∀ line : String, line ∈ heardLines lines → (context.prompt line volume).Rendered) :
    inputDocuments context volume lines =
      ⟨((heardLines lines).map fun line : String => context.prompt line volume).map
        Segment.document, none⟩ := by
  induction lines with
  | nil => rfl
  | cons line lines ih =>
    rw [inputDocuments]
    by_cases blank : Text.isBlankText line = true
    · have skipped : heardLines (line :: lines) = heardLines lines :=
        List.filter_cons_of_neg (by simp [blank])
      rw [if_pos blank, skipped]
      exact ih (skipped ▸ h)
    · have heard : heardLines (line :: lines) = line :: heardLines lines :=
        List.filter_cons_of_pos (by simp [blank])
      rw [heard] at h
      rw [if_neg blank, heard, document_eq (h line List.mem_cons_self), Sheet.then_mk,
        ih fun other mem => h other (List.mem_cons_of_mem _ mem)]
      rfl

/-- **A segment is printed** as its heading and the documents of its prompts, and leaves the
lines that it does not take. -/
theorem segmentSheet_eq (number : Nat) {s : Segment} {lines : List String}
    (h : ∀ prompt ∈ s.prompts lines, prompt.Rendered) :
    segmentSheet number s { lines := lines } =
      (⟨heading number s :: (s.prompts lines).map Segment.document, none⟩,
        { lines := s.linesLeft lines }) := by
  rw [Segment.prompts] at h ⊢
  rw [Segment.linesLeft, segmentSheet]
  cases live : s.interactive with
  | none =>
    rw [live] at h
    have written := document_eq (h s List.mem_cons_self)
    dsimp only
    rw [written]
    rfl
  | some context =>
    rw [live] at h
    have written := inputDocuments_eq context s.volume lines
      fun line mem => h _ (List.mem_map.2 ⟨line, mem, rfl⟩)
    dsimp only
    rw [written]
    simp [Sheet.then]

/-- **What is printed:** for each segment its heading and the documents of its prompts. -/
theorem sheetFrom_eq (number : Nat) {segments : List Segment} {lines : List String}
    (h : ∀ prompt ∈ prompts lines segments, prompt.Rendered) :
    sheetFrom number { lines := lines } segments =
      ⟨((scenes lines segments).zipIdx number).flatMap fun (scene, number) =>
        heading number scene.segment :: scene.prompts.map Segment.document, none⟩ := by
  induction segments generalizing number lines with
  | nil => rfl
  | cons s segments ih =>
    rw [prompts_cons] at h
    obtain ⟨here, later⟩ := List.forall_mem_append.1 h
    rw [sheetFrom, segmentSheet_eq number here]
    dsimp only
    rw [ih (number + 1) later, Sheet.then_mk, scenes, List.zipIdx_cons, List.flatMap_cons]

end Printing

/-- **Printing and speaking agree.**  The printing of compiled segments ends well: what is printed
are the headings of the segments, each with the documents of its prompts under it.  The first
segment that reads live input has a prompt for each line that is not blank, and those behind it
have none.  A delivery that ends well is one of the same prompts in the same order: for each of
them one document, the turns of the engine for its runs, and one part, which is how it sounds in
these turns; no other attempts are made.  And where the engine records in one format, a delivery
ends well unless a synthesis fails, in the engine or in its decoder. -/
theorem printed_and_spoken {chooser : Chooser} {xs : List Instruction}
    {segments : List Segment} (ok : (compile chooser xs).result = .ok segments)
    (lines : List String) (voice : String) (booth : Booth) :
    let start : Performance := { booth := booth, input := some { lines := lines } }
    Printing.sheet segments { lines := lines } =
      ⟨((scenes lines segments).zipIdx 1).flatMap fun (scene, number) =>
        Printing.heading number scene.segment :: scene.prompts.map Segment.document, none⟩ ∧
    prompts lines segments = (scenes lines segments).flatMap Scene.prompts ∧
    (∀ s ∈ prompts lines segments, s.ssml Segment.language = .ok s.document) ∧
    (∀ before s after context, segments = before ++ s :: after →
      (∀ t ∈ before, t.interactive = none) → s.interactive = some context →
      prompts lines segments = before ++
        ((heardLines lines).map fun line : String => context.prompt line s.volume) ++
          after.filter fun t => t.interactive.isNone) ∧
    (∀ done, (Performance.deliverAll voice segments).run start = (.ok (), done) →
      ∃ said : List (List Turn × Audio),
        List.Forall₂ (fun s t => s.Sounds booth.engine voice t.1 t.2)
          (prompts lines segments) said ∧
        done.parts = said.map Prod.snd ∧
        booth.Made done.booth ((said.flatMap Prod.fst).flatMap Turn.tries)) ∧
    ∀ format, booth.engine.Uniform format →
      (∃ done, (Performance.deliverAll voice segments).run start = (.ok (), done)) ∨
      (∃ fault, ((Performance.deliverAll voice segments).run start).1 = .error (.speech fault)) ∨
      ∃ reason, ((Performance.deliverAll voice segments).run start).1 =
        .error (.decoding reason) := by
  intro start
  have sayable := sayable_of_mem_prompts ok lines
  obtain ⟨error?, q, ran, turns, parts, delivered, made, added⟩ :=
    Performance.deliverAll_spec (p := start) voice ok lines rfl rfl
  refine ⟨Printing.sheetFrom_eq 1 fun s mem => (sayable s mem).rendered, rfl,
    fun s mem => (sayable s mem).rendered.ssml_eq, ?_, ?_, ?_⟩
  · rintro before s after context rfl regular live
    exact prompts_around_live lines regular live
  · intro done well
    obtain ⟨rfl, rfl⟩ : error? = none ∧ q = done := by
      cases error? <;> cases ran.symm.trans well
      exact ⟨rfl, rfl⟩
    obtain ⟨said, each, rfl, rfl⟩ := delivered.exists_said
    exact ⟨said, each, added, made⟩
  · intro format uniform
    cases error? with
    | none => exact .inl ⟨q, ran⟩
    | some error =>
      obtain ⟨_, _, _, _, _, _, _, _, breaks⟩ := delivered.exists_broken
      rw [ran]
      rcases breaks.speech_or_decoding uniform with ⟨fault, rfl⟩ | ⟨reason, rfl⟩
      · exact .inr (.inl ⟨fault, rfl⟩)
      · exact .inr (.inr ⟨reason, rfl⟩)

/-- An engine that says the first run at the third attempt, by what the second one wrote, and each
other one at once; what it writes are the samples. -/
def hesitant : Engine where
  attempt k _ :=
    match k with
    | 0 => { written := some [] }
    | 1 => { written := some [3, 1], raised := some "busy" }
    | 2 => {}
    | _ + 3 => { written := some [4] }
  decode bytes := .ok (.ofBytes bytes)

/-- Two places for live input and three lines, one of them blank, at two volumes; the first run
is said at the third attempt. -/
theorem printed_and_spoken_with_retries :
    let xs : List Instruction := [.voice (some ⟨"v", ""⟩), .text [.ofChar 'a'], .interactive,
      .turn .outputVolume 50, .turn .rate 1, .text [.ofChar 'b'], .interactive]
    let lines := ["x", " ", "y"]
    ∃ segments, (compile (.scripted [] 0) xs).result = .ok segments ∧
      (prompts lines segments).length = 4 ∧
      (Printing.sheet segments { lines := lines }).error = none ∧
      ∃ done, ∃ said : List (List Turn × Audio),
        (Performance.deliverAll "d" segments).run
          { booth := { engine := hesitant }, input := some { lines := lines } } = (.ok (), done) ∧
        List.Forall₂ (fun s t => s.Sounds hesitant "d" t.1 t.2) (prompts lines segments) said ∧
        done.parts.map Audio.samples = [[3, 1], [4], [4], [2]] := by
  intro xs lines
  let start : Performance := { booth := { engine := hesitant }, input := some { lines := lines } }
  obtain ⟨segments, ok, goesWell, sounds, four⟩ : ∃ segments,
      (compile (.scripted [] 0) xs).result = .ok segments ∧
      ((Performance.deliverAll "d" segments).run start).1.isOk = true ∧
      ((Performance.deliverAll "d" segments).run start).2.parts.map Audio.samples =
        [[3, 1], [4], [4], [2]] ∧
      (prompts lines segments).length = 4 :=
    ⟨_, rfl, by decide +kernel, by decide +kernel, rfl⟩
  obtain ⟨printed, -, -, -, spoken, ends⟩ :=
    printed_and_spoken ok lines "d" { engine := hesitant }
  have uniform : hesitant.Uniform (.ofBytes []) := Engine.uniform_of_ofBytes fun _ => rfl
  rcases ends _ uniform with ⟨done, ran⟩ | ⟨fault, failed⟩ | ⟨reason, failed⟩
  · obtain ⟨said, each, -⟩ := spoken done ran
    rw [ran] at sounds
    exact ⟨segments, ok, four, by rw [printed], done, said, ran, each, sounds⟩
  all_goals
    rw [failed] at goesWell
    cases goesWell

end Recital
