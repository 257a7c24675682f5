/-
# What every draft keeps

A draft can be in the middle of anything: scopes are closed and opened again, segments
end, a volume waits for the next instruction, and an instruction may have failed.  `Sound`
is what holds all the same, for the fresh draft and after any instruction
(`Sound.apply`), so after any number of them with the failures skipped.

| part of the draft | what is kept |
| --- | --- |
| events at hand | replayed, they leave exactly the open scopes open |
| open scopes | one of each kind at most |
| voice | the open voice scope has it; none is open where there is none |
| style | the open style scope has it; where none is open nothing is set |
| scheduled volume | the full one, with no scope open and no setting in force |
| complete segments | closed by what mirrors their openings; live input or a text |

The instructions come down to few steps.  `sound_of_marked` takes markup that leaves the
settings open, which is all that voices, dials, sentences and paragraphs do;
`sound_openSettings` takes the start of a segment.
-/

import Recital.Compilation
import Recital.Proofs.Draft.Markup
import Recital.Proofs.Except

namespace Recital

/-- Whether a segment is complete: its scopes are closed by what mirrors them, and it
either reads live input and has no events or has a text. -/
structure Segment.Settled (s : Segment) : Prop where
  whole : s.Whole
  purpose : (s.interactive.isSome ∧ s.events = []) ∨ (s.interactive = none ∧ s.hasText)

namespace Draft

/-- What holds of a draft whatever instructions it has followed. -/
structure Sound (d : Draft) : Prop where
  traced : Event.replay [] d.events.reverse = some d.scopes
  once : (Scope.kinds d.scopes).Nodup
  voice : Scope.ofKind .voice d.scopes = Scope.ofVoice d.voice
  style : Scope.ofKind .style d.scopes = [.style d.style] ∨
    Scope.ofKind .style d.scopes = [] ∧ d.style = {}
  scheduled : ∀ volume ∈ d.scheduled,
    volume = fullVolume ∧ d.scopes = [] ∧ d.voice = none ∧ d.style = {}
  settled : ∀ s ∈ d.segments, s.Settled

/-- **The fresh draft is sound.** -/
theorem sound_fresh (chooser : Chooser) : Sound { chooser := chooser } :=
  ⟨rfl, List.nodup_nil, rfl, .inr ⟨rfl, rfl⟩, by simp, by simp⟩

variable {d e : Draft}

/-- Markup keeps the events in step with the open scopes. -/
theorem Marked.traced (marked : d.Marked e) (h : Event.replay [] d.events.reverse = some d.scopes) :
    Event.replay [] e.events.reverse = some e.scopes := by
  obtain ⟨es, _, events, replay⟩ := marked.markup
  rw [events, List.reverse_append, List.reverse_reverse, Event.replay_append, h, Option.bind_some,
    replay]

/-- Markup on a draft with nothing scheduled is sound if it leaves the settings in force
open. -/
theorem sound_of_marked (marked : d.Marked e)
    (traced : Event.replay [] d.events.reverse = some d.scopes) (idle : d.scheduled = none)
    (settled : ∀ s ∈ d.segments, s.Settled)
    (voice : Scope.ofKind .voice e.scopes = Scope.ofVoice e.voice)
    (style : Scope.ofKind .style e.scopes = [.style e.style] ∨
      Scope.ofKind .style e.scopes = [] ∧ e.style = {}) : e.Sound where
  traced := marked.traced traced
  once := Event.nodup_of_replay Scope.nodup_kinds_nil (marked.traced traced)
  voice := voice
  style := style
  scheduled := by simp [marked.scheduled, idle]
  settled := marked.segments ▸ settled

theorem Sound.say (h : d.Sound) (words : Words) : (d.say words).Sound :=
  { h with
    traced := by
      rw [Draft.say, List.reverse_cons, Event.replay_append, h.traced]
      rfl }

/-- A scheduled volume can be dropped. -/
theorem Sound.unscheduled (h : d.Sound) : Sound { d with scheduled := none } :=
  { h with scheduled := by simp }

theorem Sound.setVoice (h : d.Sound) (idle : d.scheduled = none) (voice : Option Voice) :
    (d.setVoice voice).Sound := by
  have newOnce := Scope.nodup_kinds_ofVoice voice
  have newKind : ∀ s ∈ Scope.ofVoice voice, s.kind = .voice := fun _ => Scope.kind_of_mem_ofVoice
  have once : (Scope.kinds { d with voice := voice }.scopes).Nodup := h.once
  rw [setVoice_eq]
  refine sound_of_marked (marked_replaceScope once newOnce newKind) h.traced idle h.settled ?_ ?_
  · rw [ofKind_replaceScope_self once newOnce newKind, Scope.reverse_ofVoice,
      (marked_replaceScope once newOnce newKind).voice]
  · rw [ofKind_replaceScope_other (by decide) (fun _ _ => rfl) once newOnce newKind,
      (marked_replaceScope once newOnce newKind).style]
    exact h.style

theorem Sound.setStyle (h : d.Sound) (idle : d.scheduled = none) (style : Style) :
    (d.setStyle style).Sound := by
  have newOnce : (Scope.kinds [Scope.style style]).Nodup := List.nodup_singleton _
  have newKind : ∀ s ∈ [Scope.style style], s.kind = .style := by simp [Scope.kind]
  have once : (Scope.kinds { d with style := style }.scopes).Nodup := h.once
  rw [Draft.setStyle]
  refine sound_of_marked (marked_replaceScope once newOnce newKind) h.traced idle h.settled ?_
    (.inl ?_)
  · rw [ofKind_replaceScope_other (by decide) (fun _ _ => rfl) once newOnce newKind,
      (marked_replaceScope once newOnce newKind).voice]
    exact h.voice
  · rw [ofKind_replaceScope_self once newOnce newKind,
      (marked_replaceScope once newOnce newKind).style]
    rfl

/-- Replacing a structural scope keeps the settings open. -/
theorem Sound.replaceStructure (h : d.Sound) (idle : d.scheduled = none) {kind : Kind}
    (structural : kind.isAmbient = false) {new : List Scope} (newOnce : (Scope.kinds new).Nodup)
    (newKind : ∀ s ∈ new, s.kind = kind) :
    (d.replaceScope kind new fun s => s.kind.isAmbient).Sound := by
  have marked : d.Marked (d.replaceScope kind new fun s => s.kind.isAmbient) :=
    marked_replaceScope h.once newOnce newKind
  have kept : ∀ other : Kind, other.isAmbient → Scope.ofKind other
      (d.replaceScope kind new fun s => s.kind.isAmbient).scopes = Scope.ofKind other d.scopes := by
    intro other ambient
    refine ofKind_replaceScope_other ?_ (fun s same => same ▸ ambient) h.once newOnce newKind
    rintro rfl
    rw [structural] at ambient
    exact Bool.false_ne_true ambient
  refine sound_of_marked marked h.traced idle h.settled ?_ ?_
  · rw [kept .voice rfl, marked.voice]
    exact h.voice
  · rw [kept .style rfl, marked.style]
    exact h.style

theorem Sound.beginStructure (h : d.Sound) (idle : d.scheduled = none) {scope : Scope}
    (structural : scope.kind.isAmbient = false) : (d.beginStructure scope).Sound :=
  h.replaceStructure idle structural (List.nodup_singleton _) (by simp)

theorem Sound.endStructure (h : d.Sound) (idle : d.scheduled = none) {kind : Kind}
    (structural : kind.isAmbient = false) : (d.endStructure kind).1.Sound := by
  rw [Draft.endStructure]
  split
  · exact h.replaceStructure idle structural List.nodup_nil (by simp)
  · exact h

/-- The segment at hand with its scopes closed. -/
theorem Sound.whole (h : d.Sound) : Event.replay [] d.closeAll.events.reverse = some [] :=
  (marked_closeAll d).traced h.traced

/-- **What ends is complete:** the segment at hand is added if it has a text. -/
theorem Sound.settled_endSegment (h : d.Sound) : ∀ s ∈ d.endSegment.segments, s.Settled := by
  intro s mem
  rw [endSegment] at mem
  dsimp only at mem
  split at mem
  · rename_i text
    rcases List.mem_cons.1 mem with rfl | mem
    · exact ⟨h.whole, .inr ⟨rfl, text⟩⟩
    · exact h.settled s mem
  · exact h.settled s mem

/-- A segment starts with the settings in force. -/
theorem sound_openSettings (scopes : d.scopes = []) (events : d.events = [])
    (idle : d.scheduled = none) (settled : ∀ s ∈ d.segments, s.Settled) :
    d.openSettings.Sound := by
  have opened := openSettings_scopes scopes
  have marked := marked_openSettings scopes
  have noVoice : Scope.ofKind .voice (Scope.ofStyle d.style) = [] :=
    Scope.ofKind_eq_nil.2 fun s mem same =>
      absurd (same.symm.trans (Scope.kind_of_mem_ofStyle mem)) (by decide)
  have noStyle : Scope.ofKind .style (Scope.ofVoice d.voice) = [] :=
    Scope.ofKind_eq_nil.2 fun s mem same =>
      absurd (same.symm.trans (Scope.kind_of_mem_ofVoice mem)) (by decide)
  refine sound_of_marked marked (by rw [events, scopes]; rfl) idle settled ?_ ?_
  · rw [opened, Scope.ofKind_append, noVoice, List.nil_append, marked.voice]
    exact Scope.ofKind_eq_self fun _ => Scope.kind_of_mem_ofVoice
  · rw [opened, Scope.ofKind_append, noStyle, List.append_nil, marked.style,
      Scope.ofKind_eq_self fun _ => Scope.kind_of_mem_ofStyle, Scope.ofStyle]
    cases plain : d.style.isPlain with
    | true => exact .inr ⟨rfl, (Style.isPlain_iff _).1 plain⟩
    | false => exact .inl rfl

theorem Sound.changeVolume (h : d.Sound) (idle : d.scheduled = none) (volume : Int) :
    (d.changeVolume volume).Sound := by
  rw [Draft.changeVolume]
  split
  · exact h
  · exact sound_openSettings rfl rfl idle h.settled_endSegment

theorem Sound.applySchedule (h : d.Sound) : d.applySchedule.Sound := by
  rw [Draft.applySchedule]
  split
  · exact h
  · exact h.unscheduled.changeVolume rfl _

@[simp] theorem changeVolume_scheduled (d : Draft) (volume : Int) :
    (d.changeVolume volume).scheduled = d.scheduled := by
  rw [changeVolume]
  split <;> rfl

@[simp] theorem applySchedule_scheduled (d : Draft) : d.applySchedule.scheduled = none := by
  rw [applySchedule]
  split
  · assumption
  · exact changeVolume_scheduled _ _

theorem Sound.turn (h : d.Sound) (dial : Dial) (level : Int)
    (idle : dial ≠ .outputVolume → d.scheduled = none) : (d.turn dial level).Sound := by
  cases dial with
  | rate => exact h.setStyle (idle (by decide)) _
  | emphasis => exact h.setStyle (idle (by decide)) _
  | voiceVolume => exact h.setStyle (idle (by decide)) _
  | outputVolume => exact h.unscheduled.changeVolume rfl _

theorem Sound.listen (h : d.Sound) (idle : d.scheduled = none) : d.listen.Sound := by
  refine sound_openSettings rfl rfl idle ?_
  intro s mem
  rcases List.mem_cons.1 mem with rfl | mem
  · exact ⟨rfl, .inl ⟨rfl, rfl⟩⟩
  · exact h.settled_endSegment s mem

theorem Sound.reset (h : d.Sound) : d.reset.Sound where
  traced := h.whole
  once := List.nodup_nil
  voice := rfl
  style := .inr ⟨rfl, rfl⟩
  scheduled := by
    intro volume mem
    obtain rfl := Option.some.inj mem
    exact ⟨rfl, rfl, rfl, rfl⟩
  settled := h.settled

theorem Sound.sayTemplate (h : d.Sound) (document : String) : (d.sayTemplate document).1.Sound := by
  have rechosen : ∀ chooser, Sound { d with chooser := chooser } := fun _ => { h with }
  rw [Draft.sayTemplate]
  split
  rename_i result chooser _
  cases result with
  | ok words => exact (rechosen chooser).say words
  | error fault => exact rechosen chooser

/-- **An instruction keeps a draft sound,** whether it succeeds or fails. -/
theorem Sound.apply (h : d.Sound) (x : Instruction) : (d.apply x).1.Sound := by
  have later := h.applySchedule
  have idle := applySchedule_scheduled d
  cases x with
  | text words => exact later.say words
  | template document => exact later.sayTemplate document
  | voice voice => exact later.setVoice idle voice
  | turn dial level =>
    cases dial with
    | outputVolume => exact h.turn .outputVolume _ fun ne => absurd rfl ne
    | rate => exact later.turn .rate _ fun _ => idle
    | emphasis => exact later.turn .emphasis _ fun _ => idle
    | voiceVolume => exact later.turn .voiceVolume _ fun _ => idle
  | reset => exact h.reset
  | beginSentence => exact later.beginStructure idle rfl
  | endSentence => exact later.endStructure idle rfl
  | beginParagraph => exact later.beginStructure idle rfl
  | endParagraph => exact later.endStructure idle rfl
  | interactive => exact later.listen idle
  | loop rounds => exact later
  | foreign what => exact later

/-- Follows a list of instructions and passes over those that fail. -/
def applyEach (d : Draft) (xs : List Instruction) : Draft := xs.foldl (fun d x => (d.apply x).1) d

theorem Sound.applyEach (h : d.Sound) (xs : List Instruction) : (d.applyEach xs).Sound := by
  induction xs generalizing d with
  | nil => exact h
  | cons x xs ih => exact ih (h.apply x)

/-- Following a list up to a failure that does not come is following each of it. -/
theorem applyAll_eq_ok {xs : List Instruction} (h : d.applyAll xs = .ok e) :
    d.applyEach xs = e := by
  induction xs generalizing d with
  | nil => exact Except.ok.inj h
  | cons x xs ih =>
    rw [applyAll] at h
    split at h
    · rename_i next step
      rw [Draft.applyEach, List.foldl_cons, step]
      exact ih h
    · cases h

theorem Sound.finish (h : d.Sound) : ∀ s ∈ d.finish, s.Settled := by
  intro s mem
  exact h.settled_endSegment s (List.mem_reverse.1 mem)

end Draft

theorem buildSegments_eq_ok {chooser : Chooser} {xs : List Instruction} {segments : List Segment}
    (h : buildSegments chooser xs = .ok segments) :
    ∃ d, Draft.applyAll { chooser := chooser } xs = .ok d ∧ d.finish = segments := by
  obtain ⟨d, run, same⟩ := Except.bind_eq_ok.1 h
  exact ⟨d, run, Except.ok.inj same⟩

/-- Segments that are built are complete. -/
theorem settled_of_buildSegments {chooser : Chooser} {xs : List Instruction}
    {segments : List Segment} (h : buildSegments chooser xs = .ok segments) :
    ∀ s ∈ segments, s.Settled := by
  obtain ⟨d, run, rfl⟩ := buildSegments_eq_ok h
  exact (Draft.applyAll_eq_ok run ▸ (Draft.sound_fresh chooser).applyEach xs).finish

/-- Complete segments pass the check. -/
theorem checkAll_of_settled {segments : List Segment} (h : ∀ s ∈ segments, s.Settled) :
    checkAll segments = .ok () := by
  induction segments with
  | nil => rfl
  | cons s segments ih =>
    have balanced := Segment.checkBalanced_of_whole (h s List.mem_cons_self).whole
    change ((s.checkBalanced.mapError Error.imbalance) >>= fun _ => checkAll segments) = _
    rw [balanced]
    exact ih fun t mem => h t (List.mem_cons_of_mem _ mem)

/-- **The invariant of a draft.**  Whatever instructions a fresh draft is given, and
whichever of them fail, it stays sound; the segments it ends with are complete and
balanced; and so the check of what is built never fails. -/
theorem draft_sound_and_balanced (chooser : Chooser) (xs : List Instruction) :
    (Draft.applyEach { chooser := chooser } xs).Sound ∧
      (∀ s ∈ (Draft.applyEach { chooser := chooser } xs).finish,
        s.Settled ∧ s.checkBalanced = .ok ()) ∧
      buildChecked chooser xs = buildSegments chooser xs := by
  have sound := (Draft.sound_fresh chooser).applyEach xs
  refine ⟨sound, fun s mem => ⟨sound.finish s mem,
    Segment.checkBalanced_of_whole (sound.finish s mem).whole⟩, ?_⟩
  rw [buildChecked]
  cases built : buildSegments chooser xs with
  | error error => rfl
  | ok segments =>
    have passes := checkAll_of_settled (settled_of_buildSegments built)
    change (checkAll segments >>= fun _ => pure segments) = _
    rw [passes]
    rfl

/-- The end of a sentence that is not open fails: the draft goes on, and what it ends with
is complete. -/
theorem settled_past_unmatched_end :
    let xs := [.beginParagraph, .voice (some ⟨"v", ""⟩), .endSentence, .text [.ofChar 'a']]
    let s : Segment := { events := [.opening .paragraph, .opening (.voice (some ⟨"v", ""⟩)),
      .text [.ofChar 'a'], .closing (.voice (some ⟨"v", ""⟩)), .closing .paragraph] }
    (Draft.applyEach { chooser := .scripted [] 0 } xs).finish = [s] ∧ s.Settled ∧
      s.checkBalanced = .ok () := by
  intro xs s
  have finished : (Draft.applyEach { chooser := .scripted [] 0 } xs).finish = [s] := rfl
  obtain ⟨-, settled, -⟩ := draft_sound_and_balanced (.scripted [] 0) xs
  exact ⟨finished, settled s (finished ▸ List.mem_singleton_self s)⟩

end Recital
