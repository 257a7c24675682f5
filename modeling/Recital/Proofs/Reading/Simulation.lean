/-
# A draft says what a reader says

`passages_of_buildSegments` is the simulation: a draft fails exactly where a reader fails,
with the same error, and the segments it builds have the passages that the reader says.

What links the two is `Follows`.  The draft is sound, so the scopes that are open carry the
settings in force; the two have the same settings and the same nesting; and the reader's
volume is the scheduled one as long as one is scheduled.  While one is, no scope is open
(`Draft.Sound.scheduled`), which is why bringing it about can end a segment without the
reader noticing.
-/

import Recital.Proofs.Reading.Reader

namespace Recital
namespace Draft

/-- A draft and a reader who have followed the same instructions. -/
structure Follows (d : Draft) (r : Reader) : Prop where
  sound : d.Sound
  voice : d.voice = r.voice
  style : d.style = r.style
  volume : d.scheduled.getD d.volume = r.volume
  nesting : Scope.nesting d.scopes = r.nesting
  chooser : d.chooser = r.chooser

theorem follows_fresh (chooser : Chooser) :
    Follows { chooser := chooser } { chooser := chooser } :=
  ⟨sound_fresh chooser, rfl, rfl, rfl, rfl, rfl⟩

variable {d e : Draft} {r : Reader}

/-- With nothing scheduled the volume of the segment at hand is the reader's. -/
theorem Follows.volume_idle (h : d.Follows r) (idle : d.scheduled = none) :
    d.volume = r.volume := by
  rw [← h.volume, idle, Option.getD_none]

/-- What a draft says now is what the reader says. -/
theorem Follows.passage (h : d.Follows r) (idle : d.scheduled = none) (words : Words) :
    Passage.ofText d.volume (words, d.scopes) = r.passage words := by
  simp only [Passage.ofText, Reader.passage, h.volume_idle idle, h.nesting,
    Scope.voiceOf_eq h.sound.voice, Scope.styleOf_eq h.sound.style, h.voice, h.style]

/-- The draft after an instruction, if that did not fail. -/
def outcome : Draft × Option Error → Except Error Draft
  | (after, none) => .ok after
  | (_, some error) => .error error

theorem applyAll_cons (d : Draft) (x : Instruction) (xs : List Instruction) :
    d.applyAll (x :: xs) = (outcome (d.apply x)).bind fun d => d.applyAll xs := by
  rw [applyAll]
  rcases d.apply x with ⟨after, _ | error⟩ <;> rfl

/-- What became of a draft and of a reader by the same instructions: both have failed with
the same error, or they still go together and have said the same in addition. -/
def Agrees (before : Draft) : Except Error Draft → Except Error (List Passage × Reader) → Prop
  | .ok after, .ok (said, r) => after.Follows r ∧ after.passages = before.passages ++ said
  | .error error, .error error' => error = error'
  | _, _ => False

/-- Markup goes together with a reader who has the same settings and nesting after it. -/
theorem agrees_of_marked {b : Draft} (marked : b.Marked e) (same : b.passages = d.passages)
    (traced : Event.replay [] b.events.reverse = some b.scopes) (sound : e.Sound)
    (voice : b.voice = r.voice) (style : b.style = r.style)
    (volume : b.scheduled.getD b.volume = r.volume)
    (nesting : Scope.nesting e.scopes = r.nesting) (chooser : b.chooser = r.chooser) :
    Agrees d (.ok e) (.ok ([], r)) := by
  refine ⟨⟨sound, marked.voice.trans voice, marked.style.trans style, ?_, nesting,
    marked.chooser.trans chooser⟩, ?_⟩
  · rw [marked.scheduled, marked.volume, volume]
  · rw [passages_of_marked marked traced, same, List.append_nil]

theorem Follows.say (h : d.Follows r) (idle : d.scheduled = none) (words : Words) :
    Agrees d (.ok (d.say words)) (.ok ([r.passage words], r)) := by
  refine ⟨⟨h.sound.say words, h.voice, h.style, h.volume, h.nesting, h.chooser⟩, ?_⟩
  rw [passages_say h.sound.traced, h.passage idle]

theorem Follows.setVoice (h : d.Follows r) (idle : d.scheduled = none) (voice : Option Voice) :
    Agrees d (.ok (d.setVoice voice)) (.ok ([], { r with voice := voice })) := by
  have newOnce := Scope.nodup_kinds_ofVoice voice
  have newKind : ∀ s ∈ Scope.ofVoice voice, s.kind = .voice := fun _ => Scope.kind_of_mem_ofVoice
  have once : (Scope.kinds { d with voice := voice }.scopes).Nodup := h.sound.once
  have marked : { d with voice := voice }.Marked (d.setVoice voice) :=
    marked_replaceScope once newOnce newKind
  exact agrees_of_marked marked rfl h.sound.traced (h.sound.setVoice idle voice) rfl h.style h.volume
    ((nesting_replaceScope_ambient rfl once newOnce newKind).trans h.nesting) h.chooser

theorem Follows.setStyle (h : d.Follows r) (idle : d.scheduled = none) (style : Style) :
    Agrees d (.ok (d.setStyle style)) (.ok ([], { r with style := style })) := by
  have newOnce : (Scope.kinds [Scope.style style]).Nodup := List.nodup_singleton _
  have newKind : ∀ s ∈ [Scope.style style], s.kind = .style := by simp [Scope.kind]
  have once : (Scope.kinds { d with style := style }.scopes).Nodup := h.sound.once
  have marked : { d with style := style }.Marked (d.setStyle style) :=
    marked_replaceScope once newOnce newKind
  exact agrees_of_marked marked rfl h.sound.traced (h.sound.setStyle idle style) h.voice rfl h.volume
    ((nesting_replaceScope_ambient rfl once newOnce newKind).trans h.nesting) h.chooser

theorem Follows.beginStructure (h : d.Follows r) (idle : d.scheduled = none) {scope : Scope}
    (structural : scope.kind.isAmbient = false) :
    Agrees d (.ok (d.beginStructure scope)) (.ok ([], r.begin scope.kind)) := by
  have newOnce : (Scope.kinds [scope]).Nodup := List.nodup_singleton _
  have newKind : ∀ s ∈ [scope], s.kind = scope.kind := by simp
  refine agrees_of_marked (marked_replaceScope h.sound.once newOnce newKind) rfl h.sound.traced
    (h.sound.beginStructure idle structural) h.voice h.style h.volume ?_ h.chooser
  rw [Draft.beginStructure, nesting_replaceScope_structural structural h.sound.once newOnce newKind,
    h.nesting, Reader.begin]
  simp [Scope.nesting, structural]

theorem Follows.endStructure (h : d.Follows r) (idle : d.scheduled = none) {kind : Kind}
    (structural : kind.isAmbient = false) :
    Agrees d (outcome (d.endStructure kind)) (r.finish kind) := by
  have isOpen : (d.scopes.any fun s => s.kind = kind) = decide (kind ∈ r.nesting) := by
    rw [← h.nesting, Bool.eq_iff_iff, decide_eq_true_iff, Scope.mem_nesting structural]
    simp
  have newOnce : (Scope.kinds []).Nodup := List.nodup_nil
  have newKind : ∀ s ∈ ([] : List Scope), s.kind = kind := by simp
  have sound := h.sound.endStructure idle structural
  rw [Draft.endStructure, isOpen] at sound ⊢
  rw [Reader.finish]
  by_cases mem : kind ∈ r.nesting
  · simp only [mem, decide_true, if_true] at sound ⊢
    refine agrees_of_marked (marked_replaceScope h.sound.once newOnce newKind) rfl
      h.sound.traced sound h.voice h.style h.volume ?_ h.chooser
    rw [nesting_replaceScope_structural structural h.sound.once newOnce newKind, h.nesting]
    rfl
  · simp only [mem, decide_false, if_false]
    rfl

theorem nesting_changeVolume (d : Draft) (volume : Int) :
    Scope.nesting (d.changeVolume volume).scopes =
      if volume = d.volume then Scope.nesting d.scopes else [] := by
  rw [changeVolume]
  split
  · rfl
  · exact nesting_openSettings rfl

theorem changeVolume_spec (d : Draft) (volume : Int) :
    (d.changeVolume volume).voice = d.voice ∧ (d.changeVolume volume).style = d.style ∧
      (d.changeVolume volume).volume = volume ∧ (d.changeVolume volume).chooser = d.chooser := by
  rw [changeVolume]
  split
  · rename_i same
    exact ⟨rfl, rfl, same.symm, rfl⟩
  · exact ⟨rfl, rfl, rfl, rfl⟩

/-- A new volume drops the scheduled one, and ends the structure if the segment at hand has
another volume. -/
theorem Follows.changeVolume (h : d.Follows r) (volume : Int) {nesting : List Kind}
    (same : (if volume = d.volume then r.nesting else []) = nesting) :
    Agrees d (.ok ({ d with scheduled := none }.changeVolume volume))
      (.ok ([], { r with volume := volume, nesting := nesting })) := by
  have sound := h.sound.unscheduled
  have nested : Scope.nesting ({ d with scheduled := none }.changeVolume volume).scopes = nesting :=
    (nesting_changeVolume _ volume).trans (h.nesting ▸ same)
  have scheduled := changeVolume_scheduled { d with scheduled := none } volume
  obtain ⟨voice, style, now, chooser⟩ := changeVolume_spec { d with scheduled := none } volume
  refine ⟨⟨sound.changeVolume rfl volume, voice.trans h.voice, style.trans h.style, ?_, nested,
    chooser.trans h.chooser⟩, (passages_changeVolume sound volume).trans (List.append_nil _).symm⟩
  rw [scheduled, Option.getD_none, now]

/-- While a volume is scheduled no structure is open. -/
theorem Follows.nesting_scheduled (h : d.Follows r) {volume : Int}
    (scheduled : d.scheduled = some volume) : r.nesting = [] := by
  obtain ⟨_, scopes, _⟩ := h.sound.scheduled volume scheduled
  rw [← h.nesting, scopes]
  rfl

/-- Bringing the scheduled volume about changes nothing for the reader. -/
theorem Follows.applySchedule (h : d.Follows r) :
    d.applySchedule.Follows r ∧ d.applySchedule.passages = d.passages := by
  refine ⟨?_, passages_applySchedule h.sound⟩
  rw [Draft.applySchedule]
  split
  · exact h
  · rename_i volume scheduled
    have empty := h.nesting_scheduled scheduled
    have now : r.volume = volume := by rw [← h.volume, scheduled, Option.getD_some]
    have cleared : (if volume = d.volume then r.nesting else []) = [] := by rw [empty, ite_self]
    have agrees := (h.changeVolume volume cleared).1
    rw [← empty, ← now] at agrees
    rwa [← now]

theorem Follows.turnOutputVolume (h : d.Follows r) (level : Int) :
    Agrees d (.ok (d.turn .outputVolume level)) (.ok ([], r.turn .outputVolume level)) := by
  refine h.changeVolume level ?_
  cases scheduled : d.scheduled with
  | none => rw [h.volume_idle scheduled]
  | some volume => rw [h.nesting_scheduled scheduled, ite_self, ite_self]

theorem Follows.turn (h : d.Follows r) (idle : d.scheduled = none) {dial : Dial}
    (ne : dial ≠ .outputVolume) (level : Int) :
    Agrees d (.ok (d.turn dial level)) (.ok ([], r.turn dial level)) := by
  cases dial with
  | rate =>
    rw [Reader.turn, ← h.style]
    exact h.setStyle idle _
  | emphasis =>
    rw [Reader.turn, ← h.style]
    exact h.setStyle idle _
  | voiceVolume =>
    rw [Reader.turn, ← h.style]
    exact h.setStyle idle _
  | outputVolume => exact absurd rfl ne

theorem Follows.listen (h : d.Follows r) (idle : d.scheduled = none) :
    Agrees d (.ok d.listen)
      (.ok ([.ofContext r.volume ⟨r.voice, r.style⟩], { r with nesting := [] })) := by
  refine ⟨⟨h.sound.listen idle, h.voice, h.style, h.volume, nesting_openSettings rfl,
    h.chooser⟩, ?_⟩
  rw [passages_listen h.sound, h.volume_idle idle, h.voice, h.style]

theorem Follows.reset (h : d.Follows r) :
    Agrees d (.ok d.reset) (.ok ([], { chooser := r.chooser })) := by
  refine ⟨⟨h.sound.reset, rfl, rfl, rfl, rfl, h.chooser⟩, ?_⟩
  exact (passages_of_marked (marked_closeAll d) h.sound.traced).trans (List.append_nil _).symm

theorem Follows.sayTemplate (h : d.Follows r) (idle : d.scheduled = none) (document : String) :
    Agrees d (outcome (d.sayTemplate document)) (r.step (.template document)) := by
  have rechosen : ∀ chooser, Follows { d with chooser := chooser } { r with chooser := chooser } :=
    fun _ => ⟨{ h.sound with }, h.voice, h.style, h.volume, h.nesting, rfl⟩
  rw [Draft.sayTemplate, Reader.step, h.chooser]
  cases (Template.expandDocument document Template.start).run r.chooser with
  | mk result chooser =>
    cases result with
    | ok words => exact (rechosen chooser).say idle words
    | error fault => rfl

/-- **One instruction:** a draft and a reader who go together fail with the same error or
say the same and still go together. -/
theorem Follows.step (h : d.Follows r) (x : Instruction) :
    Agrees d (outcome (d.apply x)) (r.step x) := by
  obtain ⟨later, same⟩ := h.applySchedule
  have idle := applySchedule_scheduled d
  -- All but two instructions act on the draft with the scheduled volume brought about.
  have lift : ∀ {after read}, Agrees d.applySchedule after read → Agrees d after read := by
    rintro (error | after) (error' | ⟨said, r⟩) agrees
    · exact agrees
    · exact agrees
    · exact agrees
    · exact ⟨agrees.1, same ▸ agrees.2⟩
  cases x with
  | text words => exact lift (later.say idle words)
  | template document => exact lift (later.sayTemplate idle document)
  | voice voice => exact lift (later.setVoice idle voice)
  | turn dial level =>
    cases dial with
    | rate => exact lift (later.turn idle (by decide) level.val)
    | emphasis => exact lift (later.turn idle (by decide) level.val)
    | voiceVolume => exact lift (later.turn idle (by decide) level.val)
    | outputVolume => exact h.turnOutputVolume level.val
  | reset => exact h.reset
  | beginSentence => exact lift (later.beginStructure idle rfl)
  | endSentence => exact lift (later.endStructure idle rfl)
  | beginParagraph => exact lift (later.beginStructure idle rfl)
  | endParagraph => exact lift (later.endStructure idle rfl)
  | interactive => exact lift (later.listen idle)
  | loop rounds => exact lift rfl
  | foreign what => exact lift rfl

theorem Follows.fails_iff (h : d.Follows r) (x : Instruction) (error : Error) :
    (d.apply x).2 = some error ↔ r.step x = .error error := by
  have agrees := h.step x
  revert agrees
  rcases d.apply x with ⟨after, _ | failure⟩ <;> rcases r.step x with error' | result
  · exact False.elim
  · rintro -
    exact ⟨nofun, nofun⟩
  · rintro rfl
    simp
  · exact False.elim

/-- **A list of instructions,** up to the first that fails. -/
theorem Follows.run (h : d.Follows r) (xs : List Instruction) :
    Agrees d (d.applyAll xs) (r.read xs) := by
  induction xs generalizing d r with
  | nil => exact ⟨h, (List.append_nil _).symm⟩
  | cons x xs ih =>
    have agrees := h.step x
    rw [applyAll_cons]
    revert agrees
    cases outcome (d.apply x) with
    | error error =>
      cases step : r.step x with
      | error error' =>
        rintro rfl
        rw [Reader.read_cons_error step]
        rfl
      | ok result => exact False.elim
    | ok after =>
      cases step : r.step x with
      | error error' => exact False.elim
      | ok result =>
        obtain ⟨said, next⟩ := result
        rintro ⟨follows, passages⟩
        have rest := ih follows
        rw [Reader.read_cons_ok step]
        change Agrees d (after.applyAll xs) _
        revert rest
        rcases after.applyAll xs with error | final <;> rcases next.read xs with error' | ⟨more, last⟩
        · exact id
        · exact id
        · exact id
        · rintro ⟨follows, added⟩
          exact ⟨follows, by rw [added, passages, List.append_assoc]⟩

/-- A draft that has followed a list goes together with a reader who has read it. -/
theorem exists_follows {chooser : Chooser} {xs : List Instruction}
    (run : applyAll { chooser := chooser } xs = .ok d) :
    ∃ r, Reader.read { chooser := chooser } xs = .ok (d.passages, r) ∧ d.Follows r := by
  have agrees := (follows_fresh chooser).run xs
  rw [run] at agrees
  cases read : Reader.read { chooser := chooser } xs with
  | error error =>
    rw [read] at agrees
    exact agrees.elim
  | ok result =>
    obtain ⟨said, r⟩ := result
    rw [read] at agrees
    obtain ⟨follows, passages⟩ := agrees
    have same : d.passages = said := passages
    exact ⟨r, same ▸ rfl, follows⟩

/-- A draft and a reader fail at the same place of a list. -/
theorem Follows.fails_after_iff (h : d.Follows r) (xs : List Instruction) (x : Instruction)
    (error : Error) :
    (∃ e, d.applyAll xs = .ok e ∧ (e.apply x).2 = some error) ↔
      ∃ said next, r.read xs = .ok (said, next) ∧ next.step x = .error error := by
  have run := h.run xs
  revert run
  rcases d.applyAll xs with failure | e <;> rcases r.read xs with failure' | ⟨said, next⟩
  · simp
  · exact False.elim
  · exact False.elim
  · rintro ⟨follows, -⟩
    simp [follows.fails_iff]

end Draft

/-- **What is built is what is read out.**  Building fails where reading fails, with the
same error, and otherwise the segments have the passages that a reader says. -/
theorem passages_of_buildSegments (chooser : Chooser) (xs : List Instruction) :
    (buildSegments chooser xs).map (List.flatMap Segment.passages) =
      (Reader.read { chooser := chooser } xs).map Prod.fst := by
  have run := (Draft.follows_fresh chooser).run xs
  rw [buildSegments]
  revert run
  rcases Draft.applyAll { chooser := chooser } xs with error | d <;>
    rcases Reader.read { chooser := chooser } xs with error' | ⟨said, r⟩
  · rintro rfl
    rfl
  · exact False.elim
  · exact False.elim
  · rintro ⟨follows, said⟩
    exact congrArg Except.ok ((Draft.passages_finish follows.sound).trans said)

/-- A list that is built can be read, and the reader says the passages of its segments. -/
theorem read_of_buildSegments {chooser : Chooser} {xs : List Instruction}
    {segments : List Segment} (built : buildSegments chooser xs = .ok segments) :
    ∃ last, Reader.read { chooser := chooser } xs =
      .ok (segments.flatMap Segment.passages, last) := by
  have passages := passages_of_buildSegments chooser xs
  rw [built] at passages
  obtain ⟨⟨said, last⟩, read, same⟩ := Except.map_eq_ok.1 passages.symm
  exact ⟨last, read.trans (congrArg (fun said => Except.ok (said, last)) same)⟩

end Recital
