/-
# What a loop says

A loop repeats instructions, but what it is for is to repeat what they say: round `k` says
what the body says, at volumes scaled by the factor of `k`.

Within a round the link is `Fades`: a reader of the body and a reader of the round have the
same voice and the same style, and the volume of the second is that of the first, scaled.
What each instruction of the body becomes in the round keeps this (`Fades.step`), an output
volume and a reset included.  The nestings of the two have nothing to do with each other,
since scaling can make two volumes equal, and the second reader keeps sentences open then.

Between rounds stands a reset, so each begins as the first one does (`heard_of_rounds`).
-/

import Recital.Proofs.Instruction.Loop
import Recital.Proofs.Reading.Lookback

namespace Recital

/-- Whether an instruction is a template. -/
def Instruction.isTemplate : Instruction → Bool
  | .template _ => true
  | _ => false

/-- An utterance at a scaled volume. -/
def Utterance.faded (factor : Binary64) (u : Utterance) : Except Binary64.Fault Utterance := do
  let volume ← scaleVolume u.volume factor
  return { u with volume := volume }

/-- Utterances as round `k` of a loop repeats them. -/
def Repeat.fadedRound (rounds : Repeat) (heard : List Utterance) (k : Nat) :
    Except Binary64.Fault (List Utterance) := do
  let factor ← rounds.fade.factor k rounds.count
  heard.mapM (Utterance.faded factor)

/-- Utterances as all rounds of a loop repeat them, one after the other. -/
def Repeat.fadedRounds (rounds : Repeat) (heard : List Utterance) :
    Except Binary64.Fault (List Utterance) := do
  let parts ← (List.range rounds.count).mapM (rounds.fadedRound heard)
  return parts.flatten

namespace Reader

/-- Whether what the second reader says is heard as what the first says, faded. -/
def Echoes (factor : Binary64) (said echo : List Passage) : Prop :=
  List.Forall₂ (fun p q => p.toUtterance.faded factor = .ok q.toUtterance) said echo

/-- A reader of a body and a reader of a round that repeats it. -/
structure Fades (factor : Binary64) (r s : Reader) : Prop where
  voice : r.voice = s.voice
  style : r.style = s.style
  volume : scaleVolume r.volume factor = .ok s.volume

variable {factor : Binary64} {r r' s s' : Reader} {said echo : List Passage} {x : Instruction}
  {xs body : List Instruction} {rounds : Repeat}

theorem Echoes.heard (h : Echoes factor said echo) :
    (said.map Passage.toUtterance).mapM (Utterance.faded factor) =
      .ok (echo.map Passage.toUtterance) := by
  rw [Except.mapM_eq_ok, List.forall₂_map_left_iff, List.forall₂_map_right_iff]
  exact h

/-- Words are said as a round says them. -/
theorem Fades.passage (h : r.Fades factor s) (words : Words) :
    Echoes factor [r.passage words] [s.passage words] := by
  refine .cons ?_ .nil
  rw [Utterance.faded]
  simp only [Reader.passage, h.voice, h.style, h.volume]
  rfl

theorem Fades.ofContext (h : r.Fades factor s) :
    Echoes factor [.ofContext r.volume ⟨r.voice, r.style⟩]
      [.ofContext s.volume ⟨s.voice, s.style⟩] := by
  refine .cons ?_ .nil
  rw [Utterance.faded]
  simp only [Passage.ofContext, h.voice, h.style, h.volume]
  rfl

/-- What brings the scaled full volume about is silent, and does so for a reader with the
defaults. -/
theorem fades_of_roundVolume (default : s.Recalls []) (chooser : Chooser)
    (ok : Instruction.roundVolume factor = .ok xs) (read : s.read xs = .ok (echo, s')) :
    echo = [] ∧ Fades factor { chooser := chooser } s' := by
  rcases Instruction.roundVolume_eq_ok ok with ⟨rfl, rfl⟩ | ⟨level, scales, rfl⟩
  · cases read
    refine ⟨rfl, default.voice.symm, default.style.symm, ?_⟩
    rw [default.volume]
    exact scaleVolume_fullVolume_one
  · rw [read_singleton] at read
    cases read
    exact ⟨rfl, default.voice.symm, default.style.symm, scales⟩

/-- **What an instruction becomes in a round says the same, faded.** -/
theorem Fades.step (h : r.Fades factor s) (plain : x.isTemplate = false)
    (ok : Instruction.inRound factor x = .ok xs) (step : r.step x = .ok (said, r'))
    (read : s.read xs = .ok (echo, s')) : r'.Fades factor s' ∧ Echoes factor said echo := by
  rcases Instruction.inRound_eq_ok ok with ⟨before, after, rfl, scales, rfl⟩ |
    ⟨volume, rfl, full, rfl⟩ | ⟨unscaled, kept, rfl⟩
  · rw [read_singleton] at read
    cases step
    cases read
    exact ⟨⟨h.voice, h.style, scales⟩, .nil⟩
  · obtain ⟨first, next, more, reset, rest, rfl⟩ := read_cons_eq_ok read
    cases step
    cases reset
    obtain ⟨rfl, fades⟩ := fades_of_roundVolume (recalls_fresh s.chooser) r.chooser full rest
    exact ⟨fades, .nil⟩
  · rw [read_singleton] at read
    cases x with
    | text words =>
      cases step
      cases read
      exact ⟨h, h.passage words⟩
    | template document => cases plain
    | voice voice =>
      cases step
      cases read
      exact ⟨⟨rfl, h.style, h.volume⟩, .nil⟩
    | turn dial level =>
      cases step
      cases read
      cases dial with
      | outputVolume => exact absurd rfl (unscaled level)
      | _ => exact ⟨⟨h.voice, by simp only [turn, h.style], h.volume⟩, .nil⟩
    | reset => exact absurd rfl kept
    | endSentence =>
      obtain ⟨rfl, rfl⟩ := finish_eq_ok step
      obtain ⟨rfl, rfl⟩ := finish_eq_ok read
      exact ⟨⟨h.voice, h.style, h.volume⟩, .nil⟩
    | endParagraph =>
      obtain ⟨rfl, rfl⟩ := finish_eq_ok step
      obtain ⟨rfl, rfl⟩ := finish_eq_ok read
      exact ⟨⟨h.voice, h.style, h.volume⟩, .nil⟩
    | interactive =>
      cases step
      cases read
      exact ⟨⟨h.voice, h.style, h.volume⟩, h.ofContext⟩
    | loop rounds => cases step
    | foreign what => cases step
    | _ =>
      cases step
      cases read
      exact ⟨⟨h.voice, h.style, h.volume⟩, .nil⟩

/-- **A round says what its body says, faded.** -/
theorem Fades.read {parts : List (List Instruction)} (h : r.Fades factor s)
    (plain : ∀ x ∈ body, x.isTemplate = false)
    (ok : body.mapM (Instruction.inRound factor) = .ok parts)
    (read : r.read body = .ok (said, r')) (read' : s.read parts.flatten = .ok (echo, s')) :
    Echoes factor said echo := by
  have all := Except.mapM_eq_ok.1 ok
  clear ok
  induction all generalizing r s said echo with
  | nil =>
    cases read
    cases read'
    exact .nil
  | cons here _ ih =>
    obtain ⟨first, next, more, step, rest, rfl⟩ := read_cons_eq_ok read
    rw [List.flatten_cons] at read'
    obtain ⟨first', next', more', round, rest', rfl⟩ := read_append_eq_ok read'
    obtain ⟨fades, echoes⟩ := h.step (plain _ List.mem_cons_self) here step round
    exact List.rel_append echoes
      (ih fades (fun y mem => plain y (List.mem_cons_of_mem _ mem)) rest rest')

/-- A round says what its body says to a reader with the defaults, faded. -/
theorem heard_of_round {k : Nat} {chooser : Chooser} (default : k = 0 → s.Recalls [])
    (plain : ∀ x ∈ body, x.isTemplate = false)
    (ok : Instruction.round body rounds k = .ok xs)
    (read : Reader.read { chooser := chooser } body = .ok (said, r'))
    (read' : s.read xs = .ok (echo, s')) :
    rounds.fadedRound (said.map Passage.toUtterance) k =
      .ok (echo.map Passage.toUtterance) := by
  obtain ⟨factor, volume, parts, factored, full, repeated, rfl⟩ := Instruction.round_eq_ok.1 ok
  rw [List.append_assoc] at read'
  obtain ⟨first, started, _, start, rest, rfl⟩ := read_append_eq_ok read'
  obtain ⟨second, ready, more, setting, repeats, rfl⟩ := read_append_eq_ok rest
  have fresh : first = [] ∧ started.Recalls [] := by
    split at start
    · rename_i zero
      cases start
      exact ⟨rfl, default zero⟩
    · rw [read_singleton] at start
      cases start
      exact ⟨rfl, recalls_fresh s.chooser⟩
  obtain ⟨rfl, default⟩ := fresh
  obtain ⟨rfl, fades⟩ := fades_of_roundVolume default chooser full setting
  rw [Repeat.fadedRound, factored]
  exact (fades.read plain repeated read repeats).heard

/-- **All rounds say what the body says,** each faded by its own factor.  The rounds are
those from `k` on; only the one numbered 0 needs a reader with the defaults. -/
theorem heard_of_rounds {parts : List (List Instruction)} {chooser : Chooser} {k n : Nat}
    (default : k = 0 → s.Recalls []) (plain : ∀ x ∈ body, x.isTemplate = false)
    (ok : (List.range' k n).mapM (Instruction.round body rounds) = .ok parts)
    (read : Reader.read { chooser := chooser } body = .ok (said, r'))
    (read' : s.read parts.flatten = .ok (echo, s')) :
    ∃ heard, (List.range' k n).mapM (rounds.fadedRound (said.map Passage.toUtterance)) =
      .ok heard ∧ heard.flatten = echo.map Passage.toUtterance := by
  induction n generalizing k s parts echo with
  | zero =>
    cases ok
    cases read'
    exact ⟨[], rfl, rfl⟩
  | succ n ih =>
    rw [List.range'_succ, Except.mapM_eq_ok, List.forall₂_cons_left_iff] at ok
    obtain ⟨part, others, here, later, rfl⟩ := ok
    rw [List.flatten_cons] at read'
    obtain ⟨first, next, more, round, rest, rfl⟩ := read_append_eq_ok read'
    obtain ⟨heard, faded, flat⟩ := ih (by simp) (Except.mapM_eq_ok.2 later) rest
    refine ⟨first.map Passage.toUtterance :: heard, ?_, ?_⟩
    · rw [List.range'_succ, Except.mapM_eq_ok]
      exact .cons (heard_of_round default plain here read round) (Except.mapM_eq_ok.1 faded)
    · rw [List.flatten_cons, flat, List.map_append]

end Reader

/-- **What a loop says.**  If the instructions before a loop can be built on their own and
with the loop, then the loop makes heard, round after round, what they make heard on their
own, with every volume scaled by the factor of the round and all else the same.  They may
have loops among them; templates are left out, since each round would draw anew. -/
theorem utterances_of_loop {chooser chooser' : Chooser} {xs : List Instruction} {rounds : Repeat}
    {once all : List Segment} (plain : ∀ x ∈ xs, x.isTemplate = false)
    (built : (Instruction.expandLoops xs >>= buildSegments chooser) = .ok once)
    (looped : (Instruction.expandLoops (xs ++ [.loop rounds]) >>= buildSegments chooser') =
      .ok all) :
    rounds.fadedRounds (once.flatMap Segment.utterances) =
      .ok (all.flatMap Segment.utterances) := by
  obtain ⟨body, expanded, built⟩ := Except.bind_eq_ok.1 built
  obtain ⟨unrolled, loop, looped⟩ := Except.bind_eq_ok.1 looped
  rw [Instruction.expandLoops_append_loop, expanded] at loop
  obtain ⟨parts, ok, rfl⟩ := Instruction.unroll_eq_ok.1 loop
  have plainBody : ∀ x ∈ body, x.isTemplate = false :=
    Instruction.forall_mem_expandLoops rfl (fun _ => rfl) (fun x mem _ => plain x mem) expanded
  obtain ⟨last, read⟩ := read_of_buildSegments built
  obtain ⟨last', read'⟩ := read_of_buildSegments looped
  rw [List.range_eq_range'] at ok
  obtain ⟨heard, faded, flat⟩ :=
    Reader.heard_of_rounds (fun _ => Reader.recalls_fresh chooser') plainBody ok read read'
  rw [Segment.flatMap_utterances, Segment.flatMap_utterances, ← flat, Repeat.fadedRounds,
    List.range_eq_range', faded]
  rfl

/-- Two rounds that fade out: the second is heard at half the volume. -/
theorem utterances_of_two_rounds :
    let xs := [.text [.ofChar 'a'], .turn .outputVolume 40, .text [.ofChar 'b']]
    let rounds : Repeat := ⟨2, .fadeOut, by decide⟩
    let once := [{ events := [.text [.ofChar 'a']] },
      { events := [.text [.ofChar 'b']], volume := 40 }]
    let all := once ++ [{ events := [.text [.ofChar 'a']], volume := 50 },
      { events := [.text [.ofChar 'b']], volume := 20 }]
    (∀ x ∈ xs, x.isTemplate = false) ∧
      (Instruction.expandLoops xs >>= buildSegments (.scripted [] 0)) = .ok once ∧
      (Instruction.expandLoops (xs ++ [.loop rounds]) >>= buildSegments (.scripted [] 0)) =
        .ok all ∧
      rounds.fadedRounds (once.flatMap Segment.utterances) =
        .ok (all.flatMap Segment.utterances) := by
  intro xs rounds once all
  have plain : ∀ x ∈ xs, x.isTemplate = false := by decide
  have built : (Instruction.expandLoops xs >>= buildSegments (.scripted [] 0)) = .ok once := rfl
  have looped : (Instruction.expandLoops (xs ++ [.loop rounds]) >>=
      buildSegments (.scripted [] 0)) = .ok all := by
    dsimp only [xs, rounds, once, all]
    rfl
  exact ⟨plain, built, looped, utterances_of_loop plain built looped⟩

end Recital
