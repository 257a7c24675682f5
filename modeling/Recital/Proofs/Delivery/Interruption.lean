/-
# A delivery that is given up

The engine may fail at any attempt, its decoder at any recording, and a delivery may end at any
run.  Whatever the attempts come to, the engine was asked for a first part of the runs, each of
them with its own text, voice and prosody, one to three times, and the audio of the prompts whose
runs were all heard was handed on (`delivery_until_given_up`).  A session that speaks looks at the
result of its delivery before it exports anything, so that one whose delivery failed leaves the
disk as it was.

An engine answers by the number of attempts before, so any endless sequence of outcomes is one.
-/

import Recital.Proofs.Delivery.Performance
import Recital.Session

namespace Recital

/-- Whether a session comes to speak these segments: its command line is read, asks for
neither a list of voices nor documents, and describes them, and audio can be encoded. -/
structure Session.Speaks (w : World) (words : List String) (r : CommandLine.Request)
    (segments : List Segment) : Prop where
  reading : ∃ early catalog notices,
    CommandLine.readEarly words = .ok early ∧
      loadCatalog w early.onlineVoices = (.ok catalog, notices) ∧
      (CommandLine.read (surroundings w catalog) words).1 = .ok r
  noListing : r.listVoices = false
  nonempty : r.instructions ≠ []
  compiled : (compile (.ofSeed (r.seed.getD w.entropy) w.room) r.instructions).result =
    .ok segments
  aloud : r.ssml = false
  canEncode : w.canEncode = true

/-- A session that comes to speak segments speaks them. -/
theorem Session.Speaks.run_eq {w : World} {words : List String} {r : CommandLine.Request}
    {segments : List Segment} (h : Speaks w words r segments) :
    ∃ p, run w words = speak w p r segments := by
  obtain ⟨early, catalog, notices, readEarly, loaded, readAll⟩ := h.reading
  obtain ⟨progress, readAll⟩ : ∃ progress, CommandLine.read (surroundings w catalog) words =
      (.ok r, progress) :=
    ⟨_, Prod.ext readAll rfl⟩
  have some : r.instructions.isEmpty = false := by
    rw [List.isEmpty_eq_false_iff]
    exact h.nonempty
  let compiled := compile (.ofSeed (r.seed.getD w.entropy) w.room) r.instructions
  refine ⟨⟨early.verbose, notices ++ progress.notices ++ compiled.notices,
    progress.addresses⟩, ?_⟩
  rw [run, readEarly]
  dsimp only
  rw [loaded]
  dsimp only
  rw [withCatalog, readAll]
  dsimp only
  rw [follow, h.noListing, some, if_neg Bool.false_ne_true, if_neg Bool.false_ne_true, serve,
    h.compiled]
  dsimp only
  rw [h.aloud, if_neg Bool.false_ne_true]

/-- **A session whose delivery fails** exports nothing, and it ends with an error if a run was
given up. -/
theorem Session.speak_broken {w : World} (p : Session.Preamble) {r : CommandLine.Request}
    {segments : List Segment} {error : Error} {done : Performance}
    (canEncode : w.canEncode = true)
    (h : (Performance.deliverAll r.defaultVoice segments).run
      { booth := { engine := w.engine }, input := some w.input } = (.error error, done)) :
    (∀ fault, error = .speech fault → (speak w p r segments).ending = .ok 1) ∧
      (speak w p r segments).exported = [] ∧ (speak w p r segments).disk = w.disk := by
  rw [speak, canEncode, if_neg (by simp)]
  dsimp only
  rw [h]
  cases error with
  | speech fault => exact ⟨fun _ _ => rfl, rfl, rfl⟩
  | _ => exact ⟨fun _ other => (by cases other), rfl, rfl⟩

/-- **Delivery under failures.**  Whatever the engine does at its attempts, the delivery of
compiled segments asks it for the runs of the prompts in their order, each with its own call and
one to three times: it goes on behind an attempt that ended well and makes no more than three.
If nothing fails, the delivery ends well and has handed on how each prompt sounds.  If a run is
given up, the delivery fails because of it, the engine is asked nothing more, and just the prompts
before it were handed on, in order; the same goes for a recording that cannot be decoded, and for
runs that cannot be joined.  A session then exports nothing. -/
theorem delivery_until_given_up {chooser : Chooser} {xs : List Instruction}
    {segments : List Segment} (ok : (compile chooser xs).result = .ok segments)
    (lines : List String) (voice : String) (engine : Engine) :
    ∃ turns done error?,
      (Performance.deliverAll voice segments).run
        { booth := { engine := engine }, input := some { lines := lines } } =
          (Performance.answer () error?, done) ∧
      Delivered engine voice (prompts lines segments) turns done.parts error? ∧
      done.booth.calls = turns.flatMap Turn.calls ∧
      (∀ k call a, (turns.flatMap Turn.tries)[k]? = some (call, a) → a = engine.attempt k call) ∧
      (error? = none → ∃ said : List (List Turn × Audio),
        List.Forall₂ (fun s t => s.Sounds engine voice t.1 t.2) (prompts lines segments) said ∧
        turns = said.flatMap Prod.fst ∧ done.parts = said.map Prod.snd) ∧
      ∀ error, error? = some error →
        (∃ before s after last, ∃ said : List (List Turn × Audio),
          prompts lines segments = before ++ s :: after ∧
          List.Forall₂ (fun s t => s.Sounds engine voice t.1 t.2) before said ∧
          turns = said.flatMap Prod.fst ++ last ∧ done.parts = said.map Prod.snd ∧
          s.Breaks engine voice last error) ∧
        ∀ w words r, w.engine = engine → w.input = { lines := lines } →
          r.defaultVoice = voice → Session.Speaks w words r segments →
          (∀ fault, error = .speech fault → (Session.run w words).ending = .ok 1) ∧
            (Session.run w words).exported = [] ∧ (Session.run w words).disk = w.disk := by
  obtain ⟨error?, done, ran, turns, parts, delivered, made, added⟩ :=
    Performance.deliverAll_spec
      (p := { booth := { engine := engine }, input := some { lines := lines } })
      voice ok lines rfl rfl
  obtain rfl : done.parts = parts := added
  refine ⟨turns, done, error?, ran, delivered, ?_, ?_, ?_, ?_⟩
  · rw [made.calls, Turn.map_fst_tries]
    rfl
  · intro k call a there
    have answer := made.answers k call a there
    rwa [List.length_nil, Nat.zero_add] at answer
  · rintro rfl
    exact delivered.exists_said
  · rintro error rfl
    obtain ⟨before, s, after, first, last, split, rfl, whole, breaks⟩ := delivered.exists_broken
    obtain ⟨said, each, rfl, sounds⟩ := whole.exists_said
    refine ⟨⟨before, s, after, last, said, split, each, rfl, sounds, breaks⟩, ?_⟩
    intro w words r sameEngine sameInput sameVoice speaks
    obtain ⟨p, run⟩ := speaks.run_eq
    have broken : (Performance.deliverAll r.defaultVoice segments).run
        { booth := { engine := w.engine }, input := some w.input } = (.error error, done) := by
      rw [sameEngine, sameInput, sameVoice]
      exact ran
    rw [run]
    exact Session.speak_broken p speaks.canEncode broken

/-- An engine whose first attempt fails and leaves a file behind, and whose fourth fails and leaves
none; the others write nothing.  What it writes are the samples. -/
def faltering : Engine where
  attempt k _ :=
    match k with
    | 0 => { written := some [7], raised := some "busy" }
    | 3 => { raised := some "gone" }
    | _ => {}
  decode bytes := .ok (.ofBytes bytes)

/-- The first of two prompts is said at the second attempt, by what the first one wrote, and the
second prompt is given up. -/
theorem delivery_until_given_up_at_second_prompt :
    ∃ segments, (compile (.ofSeed 0) [.text "a", .turn .outputVolume 50, .text "b"]).result =
        .ok segments ∧
      ∃ done fault,
        (Performance.deliverAll defaultVoice segments).run
          { booth := { engine := faltering }, input := some {} } =
            (.error (.speech fault), done) ∧
        done.booth.calls.length = 5 ∧ done.parts.map Audio.samples = [[7]] ∧
        (Session.run { engine := faltering, clock := "" }
          ["a", "--output-volume", "50", "b", "-o", "x.mp3"]).exported = [] := by
  obtain ⟨segments, ok, refused, five, one⟩ : ∃ segments,
      (compile (.ofSeed 0) [.text "a", .turn .outputVolume 50, .text "b"]).result =
        .ok segments ∧
      ((Performance.deliverAll defaultVoice segments).run
        { booth := { engine := faltering }, input := some {} }).1 =
          .error (.speech (.silent "b")) ∧
      ((Performance.deliverAll defaultVoice segments).run
        { booth := { engine := faltering }, input := some {} }).2.booth.calls.length = 5 ∧
      ((Performance.deliverAll defaultVoice segments).run
        { booth := { engine := faltering }, input := some {} }).2.parts.map Audio.samples =
          [[7]] :=
    ⟨_, rfl, rfl, by decide +kernel, by decide +kernel⟩
  have early : CommandLine.readEarly ["a", "--output-volume", "50", "b", "-o", "x.mp3"] =
      .ok {} := by
    have none : CommandLine.steps CommandLine.Flag.early
        ["a", "--output-volume", "50", "b", "-o", "x.mp3"] =
        ["a", "--output-volume", "50", "b", "-o", "x.mp3"].map .extra := by decide +kernel
    rw [CommandLine.readEarly, none]
    rfl
  have asked (s : CommandLine.Surroundings) :
      (CommandLine.read s ["a", "--output-volume", "50", "b", "-o", "x.mp3"]).1 =
        .ok { instructions := [.text "a", .turn .outputVolume 50, .text "b"]
              output := some "x.mp3" } := by
    have given : CommandLine.steps CommandLine.Flag.all
        (CommandLine.promote ["a", "--output-volume", "50", "b", "-o", "x.mp3"]) =
          [.given .text (some "a"), .given (.dial .outputVolume) (some "50"),
            .given .text (some "b"), .given .output (some "x.mp3")] := by decide +kernel
    rw [CommandLine.read, CommandLine.readWords, given]
    rfl
  have speaks : Session.Speaks { engine := faltering, clock := "" }
      ["a", "--output-volume", "50", "b", "-o", "x.mp3"]
      { instructions := [.text "a", .turn .outputVolume 50, .text "b"]
        output := some "x.mp3" } segments :=
    { reading := ⟨_, _, _, early, rfl, asked _⟩
      noListing := rfl
      nonempty := List.cons_ne_nil _ _
      compiled := ok
      aloud := rfl
      canEncode := rfl }
  obtain ⟨turns, done, error?, ran, -, -, -, -, fails⟩ :=
    delivery_until_given_up ok [] defaultVoice faltering
  rw [ran] at refused five one
  cases error? with
  | none => cases refused
  | some error =>
    cases refused
    obtain ⟨-, session⟩ := fails _ rfl
    obtain ⟨-, silent, -⟩ := session _ _ _ rfl rfl rfl speaks
    exact ⟨segments, ok, done, _, ran, five, one, silent⟩

end Recital
