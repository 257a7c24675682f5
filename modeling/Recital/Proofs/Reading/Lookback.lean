/-
# Looking back for the settings in force

What is heard at some place of a list of instructions can be read off the list without
following it: look back from there to the last reset, and take the last instruction that
names a setting.

| setting | named by | if there is none |
| --- | --- | --- |
| voice | a voice, or the lack of one | none |
| a field of the style | its dial | level 0 |
| volume | the output volume | the full one |

`utterancesAfter` reads a list that way.  `past` is what stands before the place, the
latest first, and the only thing that is handed on besides it is the source of choices.
`utterances_of_buildSegments` says that the segments that are built make exactly this
heard: no text is lost, said twice or moved, and each has the settings that stand last
before it, however often the draft had to close and open scopes, to begin a segment or to
hold a volume back.
-/

import Recital.Proofs.Reading.Simulation

namespace Recital
namespace Instruction

/-- The voice that an instruction sets. -/
def voice? : Instruction → Option (Option Voice)
  | .voice v => some v
  | _ => none

/-- The level that an instruction turns a dial to. -/
def level? (dial : Dial) : Instruction → Option Int
  | .turn turned level => if turned = dial then some level.val else none
  | _ => none

/-- Whether an instruction resets the settings. -/
def isReset : Instruction → Bool
  | .reset => true
  | _ => false

theorem eq_reset {x : Instruction} (h : x.isReset = true) : x = .reset := by
  cases x with
  | reset => rfl
  | _ => cases h

end Instruction

/-- What was asked for since the last reset, the latest first. -/
def sinceReset (past : List Instruction) : List Instruction := past.takeWhile fun x => !x.isReset

/-- The voice in force after `past`. -/
def voiceAfter (past : List Instruction) : Option Voice :=
  ((sinceReset past).findSome? Instruction.voice?).join

/-- The level of a dial in force after `past`. -/
def levelAfter (past : List Instruction) (dial : Dial) (unset : Int) : Int :=
  ((sinceReset past).findSome? (Instruction.level? dial)).getD unset

/-- The style in force after `past`. -/
def styleAfter (past : List Instruction) : Style where
  rate := levelAfter past .rate 0
  emphasis := levelAfter past .emphasis 0
  volume := levelAfter past .voiceVolume 0

/-- The volume in force after `past`. -/
def volumeAfter (past : List Instruction) : Int := levelAfter past .outputVolume fullVolume

/-- What is heard of words, or of live input, after `past`. -/
def utteranceAfter (past : List Instruction) (words : Option Words) : Utterance where
  words := words
  volume := volumeAfter past
  voice := voiceAfter past
  style := styleAfter past

/-- What is heard of a list of instructions after `past`, the latest of which stands
first: one utterance for each text, template and place of live input. -/
def utterancesAfter (past : List Instruction) (chooser : Chooser) :
    List Instruction → Except Template.Fault (List Utterance)
  | [] => .ok []
  | x :: xs =>
    match x with
    | .text words =>
      (utterancesAfter (x :: past) chooser xs).map (utteranceAfter past (some words) :: ·)
    | .template document =>
      match (Template.expandDocument document Template.start).run chooser with
      | (.ok words, chooser) =>
        (utterancesAfter (x :: past) chooser xs).map (utteranceAfter past (some words) :: ·)
      | (.error fault, _) => .error fault
    | .interactive =>
      (utterancesAfter (x :: past) chooser xs).map (utteranceAfter past none :: ·)
    | _ => utterancesAfter (x :: past) chooser xs

section Recalling

variable {past : List Instruction} {x : Instruction}

/-- An instruction that resets nothing is the latest since the last reset. -/
theorem sinceReset_cons (h : x.isReset = false) : sinceReset (x :: past) = x :: sinceReset past := by
  rw [sinceReset, List.takeWhile_cons_of_pos (by simpa using h), sinceReset]

theorem voiceAfter_cons (h : x.isReset = false) :
    voiceAfter (x :: past) = x.voice?.getD (voiceAfter past) := by
  rw [voiceAfter, sinceReset_cons h, List.findSome?_cons]
  cases x.voice? <;> rfl

theorem levelAfter_cons (h : x.isReset = false) (dial : Dial) (unset : Int) :
    levelAfter (x :: past) dial unset = (x.level? dial).getD (levelAfter past dial unset) := by
  rw [levelAfter, sinceReset_cons h, List.findSome?_cons]
  cases x.level? dial <;> rfl

end Recalling

namespace Reader

/-- A reader who has followed `past` and has not forgotten what it set. -/
structure Recalls (r : Reader) (past : List Instruction) : Prop where
  voice : r.voice = voiceAfter past
  style : r.style = styleAfter past
  volume : r.volume = volumeAfter past

theorem recalls_fresh (chooser : Chooser) : Recalls { chooser := chooser } [] := ⟨rfl, rfl, rfl⟩

variable {r next : Reader} {past : List Instruction} {x : Instruction} {said : List Passage}

/-- An instruction sets what it names and leaves the other settings, unless it resets
them all. -/
theorem settings_of_step (reset : x.isReset = false) (step : r.step x = .ok (said, next)) :
    next.voice = x.voice?.getD r.voice ∧
      next.style.rate = (x.level? .rate).getD r.style.rate ∧
      next.style.emphasis = (x.level? .emphasis).getD r.style.emphasis ∧
      next.style.volume = (x.level? .voiceVolume).getD r.style.volume ∧
      next.volume = (x.level? .outputVolume).getD r.volume := by
  cases x with
  | template document =>
    obtain ⟨_, _, _, _, rfl⟩ := step_template_eq_ok step
    exact ⟨rfl, rfl, rfl, rfl, rfl⟩
  | turn dial level =>
    cases step
    cases dial <;> exact ⟨rfl, rfl, rfl, rfl, rfl⟩
  | endSentence =>
    obtain ⟨-, rfl⟩ := finish_eq_ok step
    exact ⟨rfl, rfl, rfl, rfl, rfl⟩
  | endParagraph =>
    obtain ⟨-, rfl⟩ := finish_eq_ok step
    exact ⟨rfl, rfl, rfl, rfl, rfl⟩
  | reset => cases reset
  | loop rounds => cases step
  | foreign what => cases step
  | _ =>
    cases step
    exact ⟨rfl, rfl, rfl, rfl, rfl⟩

/-- **An instruction is recalled** by the reader who has followed it. -/
theorem Recalls.step (h : r.Recalls past) (step : r.step x = .ok (said, next)) :
    next.Recalls (x :: past) := by
  cases reset : x.isReset with
  | true =>
    obtain rfl := Instruction.eq_reset reset
    cases step
    exact ⟨rfl, rfl, rfl⟩
  | false =>
    obtain ⟨voice, rate, emphasis, loudness, volume⟩ := settings_of_step reset step
    refine ⟨?_, ?_, ?_⟩
    · rw [voice, h.voice, voiceAfter_cons reset]
    · rw [h.style] at rate emphasis loudness
      rw [styleAfter, levelAfter_cons reset, levelAfter_cons reset, levelAfter_cons reset]
      calc next.style = ⟨next.style.rate, next.style.emphasis, next.style.volume⟩ := rfl
        _ = _ := by rw [rate, emphasis, loudness]; rfl
    · rw [volume, h.volume, volumeAfter, volumeAfter, levelAfter_cons reset]

/-- **A list is recalled,** the latest instruction first. -/
theorem Recalls.run {last : Reader} {xs : List Instruction} (h : r.Recalls past)
    (read : r.read xs = .ok (said, last)) : last.Recalls (xs.reverse ++ past) := by
  induction xs generalizing r past said with
  | nil =>
    cases read
    exact h
  | cons x xs ih =>
    obtain ⟨first, next, more, step, rest, rfl⟩ := Reader.read_cons_eq_ok read
    rw [List.reverse_cons, List.append_assoc, List.singleton_append]
    exact ih (h.step step) rest

/-- What a reader says of words is what looking back says of them. -/
theorem Recalls.passage (h : r.Recalls past) (words : Words) :
    (r.passage words).toUtterance = utteranceAfter past (some words) := by
  simp only [Reader.passage, utteranceAfter, h.voice, h.style, h.volume]

theorem Recalls.ofContext (h : r.Recalls past) :
    (Passage.ofContext r.volume ⟨r.voice, r.style⟩).toUtterance = utteranceAfter past none := by
  simp only [Passage.ofContext, utteranceAfter, h.voice, h.style, h.volume]

/-- Looking back, an instruction that is followed says what the reader says. -/
theorem Recalls.utterancesAfter_cons (h : r.Recalls past) (step : r.step x = .ok (said, next))
    (xs : List Instruction) :
    utterancesAfter past r.chooser (x :: xs) =
      (utterancesAfter (x :: past) next.chooser xs).map (said.map Passage.toUtterance ++ ·) := by
  have silent : ∀ result : Except Template.Fault (List Utterance),
      result = result.map (([] : List Passage).map Passage.toUtterance ++ ·) := by
    rintro (fault | utterances) <;> rfl
  cases x with
  | text words =>
    cases step
    rw [List.map_singleton, h.passage]
    rfl
  | template document =>
    obtain ⟨words, chooser, drawn, rfl, rfl⟩ := step_template_eq_ok step
    simp only [utterancesAfter, drawn]
    rw [List.map_singleton, h.passage]
    rfl
  | interactive =>
    cases step
    rw [List.map_singleton, h.ofContext]
    rfl
  | endSentence =>
    obtain ⟨rfl, rfl⟩ := finish_eq_ok step
    exact silent _
  | endParagraph =>
    obtain ⟨rfl, rfl⟩ := finish_eq_ok step
    exact silent _
  | turn dial level =>
    cases step
    cases dial <;> exact silent _
  | loop rounds => cases step
  | foreign what => cases step
  | _ =>
    cases step
    exact silent _

/-- **A list is read out as looking back reads it.** -/
theorem Recalls.read {last : Reader} {xs : List Instruction} (h : r.Recalls past)
    (read : r.read xs = .ok (said, last)) :
    utterancesAfter past r.chooser xs = .ok (said.map Passage.toUtterance) := by
  induction xs generalizing r past said with
  | nil =>
    cases read
    rfl
  | cons x xs ih =>
    obtain ⟨first, next, more, step, rest, rfl⟩ := Reader.read_cons_eq_ok read
    rw [h.utterancesAfter_cons step, ih (h.step step) rest, List.map_append]
    rfl

end Reader

/-- **What is built is what looking back gives.**  The segments that are built from a list
of instructions make exactly those utterances heard that the list spells out: one for each
text, template and place of live input, in order, each with the voice, the style and the
volume that were named last since the last reset. -/
theorem utterances_of_buildSegments {chooser : Chooser} {xs : List Instruction}
    {segments : List Segment} (built : buildSegments chooser xs = .ok segments) :
    utterancesAfter [] chooser xs = .ok (segments.flatMap Segment.utterances) := by
  obtain ⟨last, read⟩ := read_of_buildSegments built
  rw [Segment.flatMap_utterances]
  exact (Reader.recalls_fresh chooser).read read

/-- A reset takes the voice and the volume back, and what was said before keeps them. -/
theorem utterances_around_reset :
    let xs := [.turn .outputVolume 50, .voice (some ⟨"v", ""⟩), .text [.ofChar 'a'], .reset,
      .text [.ofChar 'b'], .interactive]
    let segments := [
      { events := [.opening (.voice (some ⟨"v", ""⟩)), .text [.ofChar 'a'],
          .closing (.voice (some ⟨"v", ""⟩))]
        volume := 50 },
      { events := [.text [.ofChar 'b']] },
      { interactive := some {} }]
    buildSegments (.scripted [] 0) xs = .ok segments ∧
      utterancesAfter [] (.scripted [] 0) xs = .ok (segments.flatMap Segment.utterances) :=
  ⟨rfl, utterances_of_buildSegments rfl⟩

end Recital
