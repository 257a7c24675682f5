/-
# What a draft carries comes from its instructions

A draft collects the settings of its instructions, puts them into scopes, closes and opens these
again in other segments, hands settings on to live input, and puts its volume into every segment.
It makes up none of this.  So what holds of the scopes that instructions may open, and of the
volumes that they may set, holds of all scopes and volumes that a draft carries and of those in
its segments (`Carries.apply`).

| instruction | must be fit |
| --- | --- |
| a voice | the scope of the voice |
| rate, emphasis, voice volume | the scope of each fit style with the level turned to |
| begin sentence or paragraph | the scope of the structure |
| output volume | the volume |
| reset | the full volume |

A style is fit if its scope is, or if nothing is set in it: such a style is in force at the
start and after a reset, and no scope is opened for it until a dial is turned.
-/

import Recital.Proofs.Draft.Markup
import Recital.Proofs.Draft.Sound

namespace Recital

variable {P : Scope → Prop} {V : Int → Prop}

/-- Whether a property holds of the scope that an event opens or closes. -/
def Event.Sets (P : Scope → Prop) : Event → Prop
  | .opening s | .closing s => P s
  | .text _ => True

/-- Whether nothing is set in a style or a property holds of its scope. -/
def Style.Fits (P : Scope → Prop) (s : Style) : Prop := s = {} ∨ P (.style s)

/-- Whether properties hold of the scopes and of the volume of a segment. -/
structure Segment.Carries (P : Scope → Prop) (V : Int → Prop) (s : Segment) : Prop where
  volume : V s.volume
  events : ∀ e ∈ s.events, e.Sets P
  context : ∀ context ∈ s.interactive, context.style.Fits P

/-- Whether properties hold of the scopes and of the volume that an instruction may bring in. -/
def Instruction.Sets (P : Scope → Prop) (V : Int → Prop) : Instruction → Prop
  | .voice set => ∀ v ∈ set, P (.voice (some v))
  | .turn .rate level => ∀ s : Style, s.Fits P → P (.style { s with rate := level.val })
  | .turn .emphasis level => ∀ s : Style, s.Fits P → P (.style { s with emphasis := level.val })
  | .turn .voiceVolume level => ∀ s : Style, s.Fits P → P (.style { s with volume := level.val })
  | .turn .outputVolume level => V level.val
  | .beginSentence => P .sentence
  | .beginParagraph => P .paragraph
  | .reset => V fullVolume
  | _ => True

namespace Draft

/-- Whether properties hold of all scopes and volumes that a draft carries. -/
structure Carries (P : Scope → Prop) (V : Int → Prop) (d : Draft) : Prop where
  voice : ∀ v ∈ d.voice, P (.voice (some v))
  style : d.style.Fits P
  volume : V d.volume
  scheduled : ∀ volume ∈ d.scheduled, V volume
  scopes : ∀ s ∈ d.scopes, P s
  events : ∀ e ∈ d.events, e.Sets P
  segments : ∀ s ∈ d.segments, s.Carries P V

theorem carries_fresh (full : V fullVolume) (chooser : Chooser) :
    Carries P V { chooser := chooser } where
  voice := by simp
  style := .inl rfl
  volume := full
  scheduled := by simp
  scopes := by simp
  events := by simp
  segments := by simp

variable {d : Draft}

theorem Carries.openScopes (h : d.Carries P V) {new : List Scope} (fit : ∀ s ∈ new, P s) :
    (d.openScopes new).Carries P V :=
  { h with
    scopes := List.forall_mem_append.2 ⟨fun s mem => fit s (List.mem_reverse.1 mem), h.scopes⟩
    events := by
      refine List.forall_mem_append.2 ⟨fun e mem => ?_, h.events⟩
      obtain ⟨s, opened, rfl⟩ := List.mem_map.1 mem
      exact fit s (List.mem_reverse.1 opened) }

/-- Closing some scopes and leaving others. -/
theorem Carries.closing (h : d.Carries P V) {closed around : List Scope}
    (hc : closed ⊆ d.scopes) (ha : around ⊆ d.scopes) :
    Carries P V { d with scopes := around, events := closed.map Event.closing ++ d.events } :=
  { h with
    scopes := fun s mem => h.scopes s (ha mem)
    events := by
      refine List.forall_mem_append.2 ⟨fun e mem => ?_, h.events⟩
      obtain ⟨s, closing, rfl⟩ := List.mem_map.1 mem
      exact h.scopes s (hc closing) }

theorem Carries.closeAll (h : d.Carries P V) : d.closeAll.Carries P V :=
  h.closing (fun _ => List.mem_reverse.1) (List.nil_subset _)

theorem Carries.replaceScope (h : d.Carries P V) (kind : Kind) {new : List Scope}
    (fit : ∀ s ∈ new, P s) (keep : Scope → Bool) : (d.replaceScope kind new keep).Carries P V := by
  rw [Draft.replaceScope]
  split
  · exact h.openScopes fit
  · rename_i inside found around present
    obtain ⟨scopes, -, -⟩ := Scope.splitAt?_eq_some present
    have hinside : inside ⊆ d.scopes := by simp [scopes]
    have hclosed : found :: inside.reverse ⊆ d.scopes := by simp [scopes]
    have haround : around ⊆ d.scopes := by simp [scopes]
    refine (h.closing hclosed haround).openScopes (List.forall_mem_append.2 ⟨fit, ?_⟩)
    intro s mem
    exact h.scopes s (hinside (List.mem_reverse.1 (List.mem_filter.1 mem).1))

theorem Carries.say (h : d.Carries P V) (words : Words) : (d.say words).Carries P V :=
  { h with events := List.forall_mem_cons.2 ⟨trivial, h.events⟩ }

theorem Carries.endSegment (h : d.Carries P V) : d.endSegment.Carries P V := by
  have closed := h.closeAll
  refine { closed with events := by simp [Draft.endSegment], segments := ?_ }
  intro s mem
  rw [Draft.endSegment] at mem
  dsimp only at mem
  split at mem
  · rcases List.mem_cons.1 mem with rfl | mem
    · exact ⟨closed.volume, fun e mem => closed.events e (List.mem_reverse.1 mem), by simp⟩
    · exact closed.segments s mem
  · exact closed.segments s mem

/-- A style in which nothing is set has no scope here, so the one that is opened is fit. -/
theorem Carries.openSettings (h : d.Carries P V) : d.openSettings.Carries P V := by
  refine h.openScopes (List.forall_mem_append.2 ⟨fun s mem => ?_, fun s mem => ?_⟩)
  · obtain ⟨v, inForce, rfl⟩ := List.mem_map.1 mem
    exact h.voice v (Option.mem_toList.1 inForce)
  · split at mem
    · cases mem
    · rename_i set
      obtain rfl := List.mem_singleton.1 mem
      exact h.style.resolve_left fun plain => set ((Style.isPlain_iff _).2 plain)

theorem Carries.changeVolume (h : d.Carries P V) {volume : Int} (fit : V volume) :
    (d.changeVolume volume).Carries P V := by
  rw [Draft.changeVolume]
  split
  · exact h
  · have ended : Carries P V { d.endSegment with volume := volume } :=
      { h.endSegment with volume := fit }
    exact ended.openSettings

theorem Carries.unscheduled (h : d.Carries P V) : Carries P V { d with scheduled := none } :=
  { h with scheduled := by simp }

theorem Carries.applySchedule (h : d.Carries P V) : d.applySchedule.Carries P V := by
  rw [Draft.applySchedule]
  split
  · exact h
  · rename_i volume scheduled
    exact h.unscheduled.changeVolume (h.scheduled volume scheduled)

theorem Carries.setVoice (h : d.Carries P V) {voice : Option Voice}
    (fit : ∀ v ∈ voice, P (.voice (some v))) : (d.setVoice voice).Carries P V := by
  have set : Carries P V { d with voice := voice } := { h with voice := fit }
  refine set.replaceScope .voice (fun s mem => ?_) _
  obtain ⟨v, new, rfl⟩ := List.mem_map.1 mem
  exact fit v (Option.mem_toList.1 new)

theorem Carries.setStyle (h : d.Carries P V) {style : Style} (fit : P (.style style)) :
    (d.setStyle style).Carries P V := by
  have set : Carries P V { d with style := style } := { h with style := .inr fit }
  exact set.replaceScope .style (List.forall_mem_singleton.2 fit) _

theorem Carries.beginStructure (h : d.Carries P V) {scope : Scope} (fit : P scope) :
    (d.beginStructure scope).Carries P V :=
  h.replaceScope scope.kind (List.forall_mem_singleton.2 fit) _

theorem Carries.endStructure (h : d.Carries P V) (kind : Kind) :
    (d.endStructure kind).1.Carries P V := by
  rw [Draft.endStructure]
  split
  · exact h.replaceScope kind (List.forall_mem_nil _) _
  · exact h

theorem Carries.listen (h : d.Carries P V) : d.listen.Carries P V := by
  have live : Segment.Carries P V { volume := d.volume, interactive := some ⟨d.voice, d.style⟩ } :=
    ⟨h.volume, by simp, by simpa using h.style⟩
  have ended := h.endSegment
  have added : Carries P V { d.endSegment with
      segments := { volume := d.volume, interactive := some ⟨d.voice, d.style⟩ } ::
        d.endSegment.segments } :=
    { ended with segments := List.forall_mem_cons.2 ⟨live, ended.segments⟩ }
  exact added.openSettings

theorem Carries.reset (h : d.Carries P V) (full : V fullVolume) : d.reset.Carries P V :=
  { h.closeAll with
    voice := by simp [Draft.reset]
    style := .inl rfl
    scheduled := by
      intro volume mem
      obtain rfl := Option.some.inj mem
      exact full }

theorem Carries.sayTemplate (h : d.Carries P V) (document : String) :
    (d.sayTemplate document).1.Carries P V := by
  have rechosen : ∀ chooser, Carries P V { d with chooser := chooser } := fun _ => { h with }
  rw [Draft.sayTemplate]
  split
  rename_i result chooser _
  cases result with
  | ok words => exact (rechosen chooser).say words
  | error fault => exact rechosen chooser

/-- **An instruction brings in what it may set,** whether it succeeds or fails. -/
theorem Carries.apply (h : d.Carries P V) {x : Instruction} (fit : x.Sets P V) :
    (d.apply x).1.Carries P V := by
  have later := h.applySchedule
  cases x with
  | text words => exact later.say words
  | template document => exact later.sayTemplate document
  | voice voice => exact later.setVoice fit
  | turn dial level =>
    cases dial with
    | outputVolume => exact h.unscheduled.changeVolume fit
    | rate => exact later.setStyle (fit _ later.style)
    | emphasis => exact later.setStyle (fit _ later.style)
    | voiceVolume => exact later.setStyle (fit _ later.style)
  | reset => exact h.reset fit
  | beginSentence => exact later.beginStructure fit
  | endSentence => exact later.endStructure .sentence
  | beginParagraph => exact later.beginStructure fit
  | endParagraph => exact later.endStructure .paragraph
  | interactive => exact later.listen
  | loop rounds => exact later
  | foreign what => exact later

theorem Carries.applyEach {xs : List Instruction} (h : d.Carries P V)
    (fit : ∀ x ∈ xs, x.Sets P V) : (d.applyEach xs).Carries P V := by
  induction xs generalizing d with
  | nil => exact h
  | cons x xs ih =>
    obtain ⟨here, rest⟩ := List.forall_mem_cons.1 fit
    exact ih (h.apply here) rest

theorem Carries.finish (h : d.Carries P V) : ∀ s ∈ d.finish, s.Carries P V :=
  fun s mem => h.endSegment.segments s (List.mem_reverse.1 mem)

end Draft

/-- **Segments carry what instructions set.** -/
theorem carries_of_buildSegments {chooser : Chooser} {xs : List Instruction}
    {segments : List Segment} (full : V fullVolume) (fit : ∀ x ∈ xs, x.Sets P V)
    (h : buildSegments chooser xs = .ok segments) : ∀ s ∈ segments, s.Carries P V := by
  obtain ⟨d, run, rfl⟩ := buildSegments_eq_ok h
  exact (Draft.applyAll_eq_ok run ▸ (Draft.carries_fresh full chooser).applyEach fit).finish

end Recital
