/-
# What was said stays said

Whatever an instruction does to a draft, it either goes on with the segment at hand or ends it,
after which complete segments are never touched again:

| of the draft later | complete segments | events |
| --- | --- | --- |
| the segment is still at hand | the same | those from before, with more behind them |
| the segment was ended | those from before, the segment, and more | any |

A segment without text is dropped when it ends.  One with a text is not, so what it held is how
one of the segments of the prompt begins (`Grows.finish`).
-/

import Recital.Proofs.Reading.Simulation

namespace Recital
namespace Draft

variable {d e f : Draft}

/-- Whether a draft goes on with the segment at hand of an earlier one. -/
structure Extends (d e : Draft) : Prop where
  segments : e.segments = d.segments
  events : d.events <:+ e.events

/-- Whether a draft has grown out of an earlier one: it goes on with the segment at hand, or
that was ended after a while. -/
def Grows (d e : Draft) : Prop :=
  d.Extends e ∨ ∃ last, d.Extends last ∧ last.endSegment.segments <:+ e.segments

/-- A draft that differs in its settings only. -/
theorem extends_of_same (segments : e.segments = d.segments) (events : e.events = d.events) :
    d.Extends e :=
  ⟨segments, events ▸ List.suffix_rfl⟩

theorem Extends.refl (d : Draft) : d.Extends d := extends_of_same rfl rfl

theorem Extends.trans (de : d.Extends e) (ef : e.Extends f) : d.Extends f :=
  ⟨ef.segments.trans de.segments, de.events.trans ef.events⟩

theorem suffix_segments_endSegment (d : Draft) : d.segments <:+ d.endSegment.segments := by
  rw [endSegment]
  dsimp only
  split
  · exact List.suffix_cons _ _
  · exact List.suffix_rfl

/-- Complete segments stay. -/
theorem Grows.suffix (h : d.Grows e) : d.segments <:+ e.segments := by
  rcases h with goesOn | ⟨last, goesOn, ended⟩
  · exact goesOn.segments ▸ List.suffix_rfl
  · rw [← goesOn.segments]
    exact (suffix_segments_endSegment last).trans ended

theorem Grows.refl (d : Draft) : d.Grows d := .inl (.refl d)

theorem Grows.trans (de : d.Grows e) (ef : e.Grows f) : d.Grows f := by
  rcases de with goesOn | ⟨last, goesOn, ended⟩
  · rcases ef with goesOn' | ⟨last, goesOn', ended⟩
    · exact .inl (goesOn.trans goesOn')
    · exact .inr ⟨last, goesOn.trans goesOn', ended⟩
  · exact .inr ⟨last, goesOn, ended.trans ef.suffix⟩

/-! ### Instructions -/

theorem extends_say (d : Draft) (words : Words) : d.Extends (d.say words) :=
  ⟨rfl, List.suffix_cons _ _⟩

theorem extends_replaceScope (d : Draft) (kind : Kind) (new : List Scope) (keep : Scope → Bool) :
    d.Extends (d.replaceScope kind new keep) := by
  rw [replaceScope]
  split
  · exact ⟨rfl, List.suffix_append _ _⟩
  · exact ⟨rfl, (List.suffix_append _ _).trans (List.suffix_append _ _)⟩

theorem extends_setVoice (d : Draft) (voice : Option Voice) : d.Extends (d.setVoice voice) :=
  have same : d.Extends { d with voice := voice } := extends_of_same rfl rfl
  same.trans (extends_replaceScope _ _ _ _)

theorem extends_setStyle (d : Draft) (style : Style) : d.Extends (d.setStyle style) :=
  have same : d.Extends { d with style := style } := extends_of_same rfl rfl
  same.trans (extends_replaceScope _ _ _ _)

theorem extends_endStructure (d : Draft) (kind : Kind) : d.Extends (d.endStructure kind).1 := by
  rw [endStructure]
  split
  · exact extends_replaceScope _ _ _ _
  · exact .refl d

theorem extends_reset (d : Draft) : d.Extends d.reset := ⟨rfl, List.suffix_append _ _⟩

theorem extends_sayTemplate (d : Draft) (document : String) :
    d.Extends (d.sayTemplate document).1 := by
  rw [sayTemplate]
  split
  next result chooser _ =>
    have same : d.Extends { d with chooser := chooser } := extends_of_same rfl rfl
    cases result with
    | ok words => exact same.trans (extends_say _ words)
    | error fault => exact same

theorem grows_changeVolume (d : Draft) (volume : Int) : d.Grows (d.changeVolume volume) := by
  rw [changeVolume]
  split
  · exact .refl d
  · exact .inr ⟨d, .refl d, List.suffix_rfl⟩

theorem grows_applySchedule (d : Draft) : d.Grows d.applySchedule := by
  rw [applySchedule]
  split
  · exact .refl d
  · have same : d.Grows { d with scheduled := none } := .inl (extends_of_same rfl rfl)
    exact same.trans (grows_changeVolume _ _)

theorem grows_turn (d : Draft) (dial : Dial) (level : Int) : d.Grows (d.turn dial level) := by
  cases dial with
  | rate => exact .inl (extends_setStyle _ _)
  | emphasis => exact .inl (extends_setStyle _ _)
  | voiceVolume => exact .inl (extends_setStyle _ _)
  | outputVolume =>
    have same : d.Grows { d with scheduled := none } := .inl (extends_of_same rfl rfl)
    exact same.trans (grows_changeVolume _ _)

theorem grows_listen (d : Draft) : d.Grows d.listen :=
  .inr ⟨d, .refl d, List.suffix_cons _ _⟩

/-- **An instruction makes a draft grow.** -/
theorem grows_apply (d : Draft) (x : Instruction) : d.Grows (d.apply x).1 := by
  have scheduled := grows_applySchedule d
  cases x with
  | text words => exact scheduled.trans (.inl (extends_say _ _))
  | template document => exact scheduled.trans (.inl (extends_sayTemplate _ _))
  | voice voice => exact scheduled.trans (.inl (extends_setVoice _ _))
  | turn dial level =>
    cases dial with
    | outputVolume => exact grows_turn d .outputVolume _
    | rate => exact scheduled.trans (grows_turn _ .rate _)
    | emphasis => exact scheduled.trans (grows_turn _ .emphasis _)
    | voiceVolume => exact scheduled.trans (grows_turn _ .voiceVolume _)
  | reset => exact .inl (extends_reset d)
  | beginSentence | beginParagraph => exact scheduled.trans (.inl (extends_replaceScope _ _ _ _))
  | endSentence | endParagraph => exact scheduled.trans (.inl (extends_endStructure _ _))
  | interactive => exact scheduled.trans (grows_listen _)
  | loop rounds => exact scheduled
  | foreign what => exact scheduled

theorem grows_applyEach (d : Draft) (xs : List Instruction) : d.Grows (d.applyEach xs) := by
  induction xs generalizing d with
  | nil => exact .refl d
  | cons x xs ih => exact (grows_apply d x).trans (ih _)

/-! ### Texts -/

/-- Whether the segment at hand has a text. -/
def HasText (d : Draft) : Prop := ∃ words, .text words ∈ d.events

theorem Extends.hasText (h : d.Extends e) (said : d.HasText) : e.HasText := by
  obtain ⟨words, mem⟩ := said
  exact ⟨words, h.events.subset mem⟩

/-- The segment at hand is complete when it ends, if it has a text. -/
theorem HasText.endSegment (said : d.HasText) :
    ∃ s, d.endSegment.segments = s :: d.segments ∧ d.events.reverse <+: s.events := by
  obtain ⟨words, mem⟩ := said
  have text : Segment.hasText { events := d.closeAll.events.reverse, volume := d.volume } = true :=
    List.any_eq_true.2 ⟨.text words, List.mem_reverse.2 (List.mem_append_right _ mem), rfl⟩
  refine ⟨{ events := d.closeAll.events.reverse, volume := d.volume }, if_pos text, ?_⟩
  change d.events.reverse <+: (_ ++ d.events).reverse
  rw [List.reverse_append]
  exact List.prefix_append _ _

/-- **What was said stays said.**  Where a draft has a text at hand, what it has at hand is how
one of the segments begins that any later draft ends with. -/
theorem Grows.finish (h : d.Grows e) (said : d.HasText) :
    ∃ s more, e.finish = d.segments.reverse ++ s :: more ∧ d.events.reverse <+: s.events := by
  have ended : ∃ last, d.Extends last ∧ last.endSegment.segments <:+ e.endSegment.segments := by
    rcases h with goesOn | ⟨last, goesOn, ended⟩
    · exact ⟨e, goesOn, List.suffix_rfl⟩
    · exact ⟨last, goesOn, ended.trans (suffix_segments_endSegment e)⟩
  obtain ⟨last, goesOn, newer, segments⟩ := ended
  obtain ⟨s, complete, starts⟩ := (goesOn.hasText said).endSegment
  refine ⟨s, newer.reverse, ?_, (List.reverse_prefix.2 goesOn.events).trans starts⟩
  rw [Draft.finish, ← segments, complete, goesOn.segments, List.reverse_append, List.reverse_cons,
    List.append_assoc, List.singleton_append]

end Draft
end Recital
