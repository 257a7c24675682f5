/-
# Levels that have an entry

A document and an engine are told words that tables have for the levels of a style.  The
tables end somewhere, so an arbitrary style may have none; one whose levels a dial could
have set does:

| level | range | tables |
| --- | --- | --- |
| rate | 0 to 5 | `rateWords` from 1, `rateShifts` |
| emphasis | 0 to 4 | `emphasisWords` from 1, `pitchShifts` |
| volume | 0 to 7 | `volumeWords` from 1, `volumeShifts` |

`InRange` says this of a style, and of what carries styles: scopes, events and segments.  A
voice scope that sets no voice cannot be written either, so it is left out.  Segments in
range are written without a failure (`exists_ssml`), and each of their runs has a prosody
(`exists_prosody_of_mem_runs`).
-/

import Recital.Proofs.Except
import Recital.Run
import Recital.Segment.Ssml
import Recital.Speech

namespace Recital

/-- Whether the levels of a style are levels of the dials that set them. -/
structure Style.InRange (s : Style) : Prop where
  rate : 0 ≤ s.rate ∧ s.rate ≤ 5
  emphasis : 0 ≤ s.emphasis ∧ s.emphasis ≤ 4
  volume : 0 ≤ s.volume ∧ s.volume ≤ 7

theorem Style.inRange_plain : Style.InRange {} := ⟨by decide, by decide, by decide⟩

/-- Whether a scope sets a voice, or levels in range. -/
def Scope.InRange : Scope → Prop
  | .voice v => v.isSome
  | .style s => s.InRange
  | .sentence | .paragraph => True

/-- Whether the scope that an event opens or closes is in range. -/
def Event.InRange : Event → Prop
  | .opening s | .closing s => s.InRange
  | .text _ => True

/-- Whether all that a segment sets is in range. -/
structure Segment.InRange (s : Segment) : Prop where
  volume : 0 ≤ s.volume ∧ s.volume ≤ 100
  events : ∀ e ∈ s.events, e.InRange
  context : ∀ context ∈ s.interactive, context.style.InRange

section Writing

theorem exists_wordOf (table : List String) {level : Int} (set : 1 ≤ level)
    (inside : level ≤ table.length) : ∃ word, wordOf table level = .ok word := by
  rw [wordOf, if_neg (by omega), List.getElem?_eq_getElem (by omega)]
  exact ⟨_, rfl⟩

theorem exists_levelAttribute (name : String) (table : List String) {level : Int}
    (nonneg : 0 ≤ level) (inside : level ≤ table.length) :
    ∃ written, levelAttribute name table level = .ok written := by
  rw [levelAttribute]
  split
  · exact ⟨_, rfl⟩
  · obtain ⟨word, ok⟩ := exists_wordOf table (show 1 ≤ level by omega) inside
    rw [ok]
    exact ⟨_, rfl⟩

theorem Style.InRange.exists_elements {s : Style} (h : s.InRange) :
    ∃ elements, s.elements = .ok elements := by
  obtain ⟨rate, rateOk⟩ := exists_levelAttribute "rate" rateWords h.rate.1 h.rate.2
  obtain ⟨volume, volumeOk⟩ :=
    exists_levelAttribute "volume" volumeWords h.volume.1 h.volume.2
  obtain ⟨emphasis, emphasisOk⟩ :=
    exists_levelAttribute "level" emphasisWords h.emphasis.1 h.emphasis.2
  rw [Style.elements, rateOk, volumeOk, emphasisOk]
  exact ⟨_, rfl⟩

theorem Scope.InRange.exists_elements {s : Scope} (h : s.InRange) :
    ∃ elements, s.elements = .ok elements := by
  cases s with
  | voice voice =>
    obtain ⟨v, rfl⟩ := Option.isSome_iff_exists.1 h
    exact ⟨_, rfl⟩
  | style s => exact Style.InRange.exists_elements h
  | sentence => exact ⟨_, rfl⟩
  | paragraph => exact ⟨_, rfl⟩

namespace Segment

theorem exists_eventPieces {e : Event} (h : e.InRange) (spaced : Bool) :
    ∃ pieces, eventPieces spaced e = .ok pieces := by
  cases e with
  | text words => exact ⟨_, rfl⟩
  | opening s =>
    obtain ⟨elements, ok⟩ := Scope.InRange.exists_elements h
    rw [eventPieces, ok]
    exact ⟨_, rfl⟩
  | closing s =>
    obtain ⟨elements, ok⟩ := Scope.InRange.exists_elements h
    rw [eventPieces, ok]
    exact ⟨_, rfl⟩

theorem exists_piecesFrom {es : List Event} (h : ∀ e ∈ es, e.InRange) (spaced : Bool) :
    ∃ pieces, piecesFrom spaced es = .ok pieces := by
  induction es generalizing spaced with
  | nil => exact ⟨_, rfl⟩
  | cons e es ih =>
    obtain ⟨first, here⟩ := exists_eventPieces (h e List.mem_cons_self) spaced
    obtain ⟨rest, later⟩ := ih (fun f mem => h f (List.mem_cons_of_mem _ mem)) e.words?.isSome
    rw [piecesFrom, here]
    change ∃ pieces, (piecesFrom e.words?.isSome es >>= fun rest => pure (first ++ rest)) = _
    rw [later]
    exact ⟨_, rfl⟩

/-- **A segment in range is written** without a failure. -/
theorem exists_ssml {s : Segment} (events : ∀ e ∈ s.events, e.InRange)
    (regular : s.interactive = none) (lang : String) : ∃ text, s.ssml lang = .ok text := by
  obtain ⟨inner, ok⟩ := exists_piecesFrom events false
  rw [ssml, pieces, regular, ok]
  exact ⟨_, rfl⟩

end Segment
end Writing

section Speaking

theorem exists_shiftOf (table : List String) {level : Int} (nonneg : 0 ≤ level)
    (inside : level < table.length) : ∃ shift, shiftOf table level = .ok shift := by
  rw [shiftOf, if_neg (by omega), List.getElem?_eq_getElem (by omega)]
  exact ⟨_, rfl⟩

/-- **A style in range has a prosody.** -/
theorem Style.InRange.exists_prosody {s : Style} (h : s.InRange) :
    ∃ prosody, s.prosody = .ok prosody := by
  obtain ⟨rate, rateOk⟩ :=
    exists_shiftOf rateShifts h.rate.1 (Int.lt_add_one_of_le h.rate.2)
  obtain ⟨volume, volumeOk⟩ :=
    exists_shiftOf volumeShifts h.volume.1 (Int.lt_add_one_of_le h.volume.2)
  obtain ⟨pitch, pitchOk⟩ :=
    exists_shiftOf pitchShifts h.emphasis.1 (Int.lt_add_one_of_le h.emphasis.2)
  rw [Style.prosody, rateOk, volumeOk, pitchOk]
  exact ⟨_, rfl⟩

/-- Whether the styles of a flattening are in range. -/
structure Flattening.InRange (f : Flattening) : Prop where
  style : f.style.InRange
  runs : ∀ r ∈ f.runs, r.style.InRange

theorem Flattening.InRange.note {f : Flattening} (h : f.InRange) (b : Break) :
    (f.note b).InRange := by
  rw [Flattening.note]
  split
  · exact h
  · exact ⟨h.style, h.runs⟩

theorem Flattening.InRange.say {f : Flattening} (h : f.InRange) (words : Words) :
    (f.say words).InRange := by
  rw [Flattening.say]
  split
  · exact h
  · exact ⟨h.style, List.forall_mem_cons.2 ⟨h.style, h.runs⟩⟩

/-- **An event keeps the styles in range.** -/
theorem Flattening.InRange.step {f : Flattening} (h : f.InRange) {e : Event} (he : e.InRange) :
    (f.step e).InRange := by
  cases e with
  | text words => exact h.say words
  | opening s =>
    cases s with
    | voice voice => exact ⟨h.style, h.runs⟩
    | style s => exact ⟨he, h.runs⟩
    | sentence => exact h.note .sentence
    | paragraph => exact h.note .paragraph
  | closing s =>
    cases s with
    | voice voice => exact ⟨h.style, h.runs⟩
    | style s => exact ⟨Style.inRange_plain, h.runs⟩
    | sentence => exact h.note .sentence
    | paragraph => exact h.note .paragraph

theorem Flattening.InRange.run {f : Flattening} (h : f.InRange) {es : List Event}
    (hes : ∀ e ∈ es, e.InRange) : (es.foldl Flattening.step f).InRange := by
  induction es generalizing f with
  | nil => exact h
  | cons e es ih =>
    exact ih (h.step (hes e List.mem_cons_self)) fun e mem => hes e (List.mem_cons_of_mem _ mem)

/-- Joining runs makes no new styles. -/
theorem exists_style_of_mem_joined {runs : List Run} {r : Run} (mem : r ∈ Run.joined runs) :
    ∃ r' ∈ runs, r.style = r'.style := by
  induction runs generalizing r with
  | nil => cases mem
  | cons first runs ih =>
    have later : ∀ {r}, r ∈ Run.joined runs → ∃ r' ∈ first :: runs, r.style = r'.style := by
      intro r mem
      obtain ⟨r', mem', same⟩ := ih mem
      exact ⟨r', List.mem_cons_of_mem _ mem', same⟩
    rw [Run.joined] at mem
    split at mem
    · obtain rfl := List.mem_singleton.1 mem
      exact ⟨r, List.mem_cons_self, rfl⟩
    · rename_i next more joined
      split at mem
      · rcases List.mem_cons.1 mem with rfl | mem
        · exact ⟨first, List.mem_cons_self, rfl⟩
        · exact later (joined ▸ List.mem_cons_of_mem _ mem)
      · rcases List.mem_cons.1 mem with rfl | mem
        · exact ⟨r, List.mem_cons_self, rfl⟩
        · exact later (joined ▸ mem)

/-- **Each run of a segment in range has a prosody.** -/
theorem exists_prosody_of_mem_runs {s : Segment} (events : ∀ e ∈ s.events, e.InRange) {r : Run}
    (mem : r ∈ s.runs) : ∃ prosody, r.style.prosody = .ok prosody := by
  have start : Flattening.InRange {} := ⟨Style.inRange_plain, by simp⟩
  obtain ⟨r', mem', same⟩ := exists_style_of_mem_joined mem
  rw [same]
  exact ((start.run events).runs r' (List.mem_reverse.1 mem')).exists_prosody

end Speaking
end Recital
