/-
# What a draft sets stays in range

Instructions carry levels that were checked when they were made.  A draft collects them in
its style, puts styles into scopes, closes and opens these again in other segments and hands
styles on to live input; the volume goes into every segment.  `InRange` says of a draft that
whatever it carries this way is in range, and each step keeps it: what a draft carries comes
from its instructions, and these set nothing else by the types of their levels
(`Instruction.sets_inRange`).
-/

import Recital.Proofs.Draft.Carried
import Recital.Proofs.Segment.Levels

namespace Recital

/-- Whether a volume is a level of its dial. -/
def VolumeInRange (volume : Int) : Prop := 0 ≤ volume ∧ volume ≤ 100

theorem fullVolume_bounds : VolumeInRange fullVolume := ⟨by decide, by decide⟩

theorem Style.Fits.inRange {s : Style} (h : s.Fits Scope.InRange) : s.InRange := by
  rcases h with rfl | range
  · exact Style.inRange_plain
  · exact range

theorem Event.sets_inRange_iff {e : Event} : e.Sets Scope.InRange ↔ e.InRange := by
  cases e <;> rfl

theorem Segment.inRange_iff_carries {s : Segment} :
    s.InRange ↔ s.Carries Scope.InRange VolumeInRange := by
  constructor
  · intro h
    exact ⟨h.volume, fun e mem => Event.sets_inRange_iff.2 (h.events e mem),
      fun context mem => .inr (h.context context mem)⟩
  · intro h
    exact ⟨h.volume, fun e mem => Event.sets_inRange_iff.1 (h.events e mem),
      fun context mem => (h.context context mem).inRange⟩

/-- **A level is in range by its type.** -/
theorem Instruction.sets_inRange (x : Instruction) : x.Sets Scope.InRange VolumeInRange := by
  have inside : ∀ dial : Dial, ∀ level : dial.Level,
      (0 : Int) ≤ level.val ∧ (level.val : Int) ≤ dial.top := by
    intro dial level
    have le : level.val ≤ dial.top := Nat.le_of_lt_succ level.isLt
    omega
  cases x with
  | voice set => exact fun v _ => rfl
  | turn dial level =>
    cases dial with
    | rate => exact fun s fits => { fits.inRange with rate := inside .rate level }
    | emphasis => exact fun s fits => { fits.inRange with emphasis := inside .emphasis level }
    | voiceVolume => exact fun s fits => { fits.inRange with volume := inside .voiceVolume level }
    | outputVolume => exact inside .outputVolume level
  | reset => exact fullVolume_bounds
  | _ => exact trivial

namespace Draft

/-- Whether all that a draft sets, has set and is going to set is in range. -/
structure InRange (d : Draft) : Prop where
  style : d.style.InRange
  volume : 0 ≤ d.volume ∧ d.volume ≤ 100
  scheduled : ∀ volume ∈ d.scheduled, 0 ≤ volume ∧ volume ≤ 100
  scopes : ∀ s ∈ d.scopes, s.InRange
  events : ∀ e ∈ d.events, e.InRange
  segments : ∀ s ∈ d.segments, s.InRange

theorem inRange_fresh (chooser : Chooser) : InRange { chooser := chooser } :=
  ⟨Style.inRange_plain, fullVolume_bounds, by simp, by simp, by simp, by simp⟩

variable {d : Draft}

theorem inRange_iff_carries : d.InRange ↔ d.Carries Scope.InRange VolumeInRange := by
  constructor
  · intro h
    exact ⟨fun v _ => rfl, .inr h.style, h.volume, h.scheduled, h.scopes,
      fun e mem => Event.sets_inRange_iff.2 (h.events e mem),
      fun s mem => Segment.inRange_iff_carries.1 (h.segments s mem)⟩
  · intro h
    exact ⟨h.style.inRange, h.volume, h.scheduled, h.scopes,
      fun e mem => Event.sets_inRange_iff.1 (h.events e mem),
      fun s mem => Segment.inRange_iff_carries.2 (h.segments s mem)⟩

/-- **An instruction keeps a draft in range,** whether it succeeds or fails. -/
theorem InRange.apply (h : d.InRange) (x : Instruction) : (d.apply x).1.InRange :=
  inRange_iff_carries.2 ((inRange_iff_carries.1 h).apply x.sets_inRange)

theorem InRange.applyEach (h : d.InRange) (xs : List Instruction) : (d.applyEach xs).InRange := by
  induction xs generalizing d with
  | nil => exact h
  | cons x xs ih => exact ih (h.apply x)

theorem InRange.finish (h : d.InRange) : ∀ s ∈ d.finish, s.InRange :=
  fun s mem => Segment.inRange_iff_carries.2 ((inRange_iff_carries.1 h).finish s mem)

end Draft

/-- **Segments that are built are in range.** -/
theorem inRange_of_buildSegments {chooser : Chooser} {xs : List Instruction}
    {segments : List Segment} (h : buildSegments chooser xs = .ok segments) :
    ∀ s ∈ segments, s.InRange := by
  obtain ⟨d, run, rfl⟩ := buildSegments_eq_ok h
  exact (Draft.applyAll_eq_ok run ▸ (Draft.inRange_fresh chooser).applyEach xs).finish

/-- The prompt for a line of live input is in range and regular. -/
theorem inRange_prompt {context : Context} {volume : Int} (style : context.style.InRange)
    (hv : 0 ≤ volume ∧ volume ≤ 100) (line : Words) :
    (context.prompt line volume).InRange ∧ (context.prompt line volume).interactive = none := by
  let d : Draft :=
    { voice := context.voice, style := context.style, volume := volume, chooser := .scripted [] 0 }
  have start : d.InRange := ⟨style, hv, by simp [d], by simp [d], by simp [d], by simp [d]⟩
  have said := ((Draft.inRange_iff_carries.1 start).openSettings.say line).closeAll
  have range := (Draft.inRange_iff_carries.2 said).events
  exact ⟨⟨hv, fun e mem => range e (List.mem_reverse.1 mem), by simp [Context.prompt]⟩, rfl⟩

end Recital
