/-
# Changes of voice and style open structure again

Replacing a voice or a style scope closes what is nested in it and opens it again, sentences and
paragraphs included.  Nothing is said in between, but the events are there, and whoever reads
the segment takes them for breaks.

| between two texts | breaks |
| --- | --- |
| a voice | of the sentences and paragraphs inside the voice scope, if one is open |
| rate, emphasis, voice volume | of those inside the style scope, if one is open |
| a text, a template, a volume that is in force already | none |

What is inside a scope does not get more by any of these, and replacing the scope of another
kind leaves it as it is.  So the breaks of a whole row of such instructions are decided by the
scopes that were open before the first (`reopened`).
-/

import Recital.Proofs.Draft.Origin

namespace Recital

/-! ### Inside a scope -/

namespace Scope

variable {kind other : Kind} {scopes inside around : List Scope} {found : Scope}

/-- The breaks of what is inside the scope of a kind, if there is one. -/
def breaksInside? (kind : Kind) (scopes : List Scope) : Option (List Break) :=
  (splitAt? kind scopes).map fun split => split.1.filterMap break?

/-- The breaks of what is inside the scope of a kind; none where that is not open. -/
def breaksInside (kind : Kind) (scopes : List Scope) : List Break :=
  (breaksInside? kind scopes).getD []

theorem break?_of_ambient {s : Scope} (ambient : s.kind.isAmbient) : s.break? = none := by
  cases s with
  | voice v => rfl
  | style t => rfl
  | sentence | paragraph => cases ambient

theorem filterMap_break?_of_ambient (ambient : ∀ s ∈ scopes, s.kind.isAmbient) :
    scopes.filterMap break? = [] :=
  List.filterMap_eq_nil_iff.2 fun s mem => break?_of_ambient (ambient s mem)

theorem breaksInside?_cons (kind : Kind) (s : Scope) (scopes : List Scope) :
    breaksInside? kind (s :: scopes) =
      if s.kind = kind then some []
      else (breaksInside? kind scopes).map (s.break?.toList ++ ·) := by
  rw [breaksInside?, splitAt?]
  split
  · rfl
  · rw [breaksInside?, Option.map_map, Option.map_map]
    congr 1
    funext split
    obtain ⟨inside, found, around⟩ := split
    cases makes : s.break? with
    | none => exact List.filterMap_cons_none makes
    | some b => exact List.filterMap_cons_some makes

/-- Scopes of another setting do not matter. -/
theorem breaksInside?_filter (ne : other ≠ kind) (ambient : other.isAmbient)
    (scopes : List Scope) :
    breaksInside? kind (scopes.filter fun s => s.kind ≠ other) = breaksInside? kind scopes := by
  induction scopes with
  | nil => rfl
  | cons s scopes ih =>
    by_cases gone : s.kind = other
    · have notFound : s.kind ≠ kind := gone ▸ ne
      have silent : s.break? = none := break?_of_ambient (gone ▸ ambient)
      rw [List.filter_cons_of_neg (by simpa using gone), ih, breaksInside?_cons,
        if_neg notFound, silent]
      cases breaksInside? kind scopes <;> rfl
    · rw [List.filter_cons_of_pos (by simpa using gone), breaksInside?_cons,
        breaksInside?_cons, ih]

theorem breaksInside_of_open (apart : ∀ s ∈ inside, s.kind ≠ kind) (same : found.kind = kind) :
    breaksInside kind (inside ++ found :: around) = inside.filterMap break? := by
  have split : splitAt? kind (inside ++ found :: around) = some (inside, found, around) := by
    induction inside with
    | nil => rw [List.nil_append, splitAt?, if_pos same]
    | cons s inside ih =>
      obtain ⟨here, rest⟩ := List.forall_mem_cons.1 apart
      rw [List.cons_append, splitAt?, if_neg here, ih rest]
      rfl
  rw [breaksInside, breaksInside?, split]
  rfl

theorem breaksInside_of_closed (apart : ∀ s ∈ scopes, s.kind ≠ kind) :
    breaksInside kind scopes = [] := by
  have split : splitAt? kind scopes = none := by
    induction scopes with
    | nil => rfl
    | cons s scopes ih =>
      obtain ⟨here, rest⟩ := List.forall_mem_cons.1 apart
      rw [splitAt?, if_neg here, ih rest]
      rfl
  rw [breaksInside, breaksInside?, split]
  rfl

end Scope

namespace Draft

section Replacing

variable {d : Draft} {kind other : Kind} {new : List Scope}

/-- What is inside the scope of another kind stays as it is. -/
theorem breaksInside_replaceScope_other (ne : kind ≠ other) (ambient : kind.isAmbient)
    (once : (Scope.kinds d.scopes).Nodup) (newOnce : (Scope.kinds new).Nodup)
    (newKind : ∀ s ∈ new, s.kind = kind) :
    Scope.breaksInside other (d.replaceScope kind new fun _ => true).scopes =
      Scope.breaksInside other d.scopes := by
  obtain ⟨inside, gone, around, before, after, goneKind, apart, -⟩ :=
    replaceScope_spec (fun _ => true) once newOnce newKind
  have left : ∀ middle : List Scope, (∀ s ∈ middle, s.kind = kind) →
      (inside ++ middle ++ around).filter (fun s => s.kind ≠ kind) = inside ++ around := by
    intro middle middleKind
    have dropped : middle.filter (fun s => s.kind ≠ kind) = [] := by
      simpa [List.filter_eq_nil_iff] using middleKind
    have kept : (inside ++ around).filter (fun s => s.kind ≠ kind) = inside ++ around := by
      exact List.filter_eq_self.2 (by simpa using apart)
    rw [List.filter_append] at kept ⊢
    rw [List.filter_append, dropped, List.append_nil, kept]
  have all : inside.filter (fun _ => true) = inside := List.filter_eq_self.2 fun _ _ => rfl
  rw [Scope.breaksInside, Scope.breaksInside,
    ← Scope.breaksInside?_filter ne ambient d.scopes, ← Scope.breaksInside?_filter ne ambient _,
    before, after, all, left _ (by simpa using newKind), left _ (by simpa using goneKind)]

/-- What is inside the scope that is replaced is still inside, unless nothing took its place. -/
theorem breaksInside_replaceScope_self (once : (Scope.kinds d.scopes).Nodup)
    (newOnce : (Scope.kinds new).Nodup) (newKind : ∀ s ∈ new, s.kind = kind) :
    Scope.breaksInside kind (d.replaceScope kind new fun _ => true).scopes ⊆
      Scope.breaksInside kind d.scopes := by
  obtain ⟨inside, gone, around, before, after, goneKind, apart, whole, -⟩ :=
    replaceScope_spec (fun _ => true) once newOnce newKind
  have all : inside.filter (fun _ => true) = inside := List.filter_eq_self.2 fun _ _ => rfl
  have insideApart : ∀ s ∈ inside, s.kind ≠ kind := fun s mem =>
    apart s (List.mem_append_left _ mem)
  have now : Scope.breaksInside kind d.scopes = inside.filterMap Scope.break? := by
    rw [before]
    cases gone with
    | none =>
      obtain rfl := whole rfl
      exact Scope.breaksInside_of_closed (by simpa using apart)
    | some found =>
      rw [Option.toList_some, List.append_assoc, List.singleton_append]
      exact Scope.breaksInside_of_open insideApart (goneKind found rfl)
  rw [now, after, all]
  cases opened : new.reverse with
  | nil =>
    rw [List.append_nil, Scope.breaksInside_of_closed apart]
    exact List.nil_subset _
  | cons s rest =>
    have same : s.kind = kind := newKind s (List.mem_reverse.1 (opened ▸ List.mem_cons_self))
    rw [List.append_assoc, List.cons_append, Scope.breaksInside_of_open insideApart same]
    exact List.Subset.refl _

theorem breaks_map_opening (scopes : List Scope) :
    Event.breaks (scopes.map Event.opening) = scopes.filterMap Scope.break? := by
  rw [Event.breaks, List.filterMap_map]
  rfl

theorem breaks_map_closing (scopes : List Scope) :
    Event.breaks (scopes.map Event.closing) = scopes.filterMap Scope.break? := by
  rw [Event.breaks, List.filterMap_map]
  rfl

/-- Replacing a setting makes the breaks of what was inside its scope. -/
theorem exists_events_replaceScope (ambient : kind.isAmbient)
    (newKind : ∀ s ∈ new, s.kind = kind) :
    ∃ es, (d.replaceScope kind new fun _ => true).events = es.reverse ++ d.events ∧
      ∀ b, b ∈ Event.breaks es ↔ b ∈ Scope.breaksInside kind d.scopes := by
  have newSilent : new.filterMap Scope.break? = [] :=
    Scope.filterMap_break?_of_ambient fun s mem => newKind s mem ▸ ambient
  rw [replaceScope, Scope.breaksInside, Scope.breaksInside?]
  cases split : Scope.splitAt? kind d.scopes with
  | none =>
    refine ⟨new.map Event.opening, by simp [openScopes], ?_⟩
    intro b
    rw [breaks_map_opening, newSilent]
    rfl
  | some parts =>
    obtain ⟨inside, found, around⟩ := parts
    obtain ⟨-, foundKind, -⟩ := Scope.splitAt?_eq_some split
    have foundSilent : found.break? = none := Scope.break?_of_ambient (foundKind ▸ ambient)
    refine ⟨(inside ++ [found]).map Event.closing ++ (new ++ inside.reverse).map Event.opening,
      by simp [openScopes], ?_⟩
    intro b
    have closed : b ∈ Event.breaks ((inside ++ [found]).map Event.closing) ↔
        b ∈ inside.filterMap Scope.break? := by
      rw [breaks_map_closing, List.filterMap_append, List.filterMap_cons_none foundSilent,
        List.filterMap_nil, List.append_nil]
    have opened : b ∈ Event.breaks ((new ++ inside.reverse).map Event.opening) ↔
        b ∈ inside.filterMap Scope.break? := by
      rw [breaks_map_opening, List.filterMap_append, newSilent, List.nil_append,
        List.filterMap_reverse, List.mem_reverse]
    rw [Event.breaks, List.filterMap_append, List.mem_append]
    exact (or_congr closed opened).trans (or_self_iff)

end Replacing

end Draft

/-! ### Instructions between two texts -/

namespace Instruction

/-- The kind of scope that an instruction replaces to change a setting. -/
def replaces? : Instruction → Option Kind
  | .voice _ => some .voice
  | .turn .rate _ | .turn .emphasis _ | .turn .voiceVolume _ => some .style
  | _ => none

/-- Whether an instruction is about sentences and paragraphs: it begins or ends one, or resets. -/
def isStructural : Instruction → Bool
  | .beginSentence | .endSentence | .beginParagraph | .endParagraph | .reset => true
  | _ => false

end Instruction

/-- The breaks of the structure that instructions close and open again where scopes are open. -/
def reopened (xs : List Instruction) (scopes : List Scope) : List Break :=
  (xs.filterMap Instruction.replaces?).flatMap fun kind => Scope.breaksInside kind scopes

theorem mem_reopened {xs : List Instruction} {scopes : List Scope} {b : Break} :
    b ∈ reopened xs scopes ↔
      ∃ x ∈ xs, ∃ kind ∈ x.replaces?, b ∈ Scope.breaksInside kind scopes := by
  simp only [reopened, List.mem_flatMap, List.mem_filterMap, Option.mem_def]
  constructor
  · rintro ⟨kind, ⟨x, mem, replaces⟩, inside⟩
    exact ⟨x, mem, kind, replaces, inside⟩
  · rintro ⟨x, mem, kind, replaces, inside⟩
    exact ⟨kind, ⟨x, mem, replaces⟩, inside⟩

namespace Draft

variable {d e m : Draft} {x : Instruction} {xs : List Instruction}

/-- What an instruction between two texts of a segment does to a draft: the segment goes on with
the breaks of what is inside the scope that is replaced, and nothing more is inside any. -/
structure Changes (d : Draft) (x : Instruction) (e : Draft) : Prop where
  segments : e.segments = d.segments
  idle : e.scheduled = none
  events : ∃ es, e.events = es.reverse ++ d.events ∧
    ∀ b, b ∈ Event.breaks es ↔ ∃ kind ∈ x.replaces?, b ∈ Scope.breaksInside kind d.scopes
  inside : ∀ kind, Scope.breaksInside kind e.scopes ⊆ Scope.breaksInside kind d.scopes
  other : ∀ kind, x.replaces? ≠ some kind →
    Scope.breaksInside kind e.scopes = Scope.breaksInside kind d.scopes

theorem applySchedule_of_idle (idle : d.scheduled = none) : d.applySchedule = d := by
  rw [applySchedule, idle]

/-- An instruction that replaces no scope leaves the scopes and adds a text at most. -/
theorem changes_of_same (noScope : x.replaces? = none) (segments : e.segments = d.segments)
    (idle : e.scheduled = none) (scopes : e.scopes = d.scopes)
    (events : ∃ ws : List Words, e.events = ws.map Event.text ++ d.events) : d.Changes x e where
  segments := segments
  idle := idle
  events := by
    obtain ⟨ws, events⟩ := events
    refine ⟨(ws.map Event.text).reverse, by rw [List.reverse_reverse, events], ?_⟩
    intro b
    simp [noScope, Event.breaks, Event.break?]
  inside := fun kind => scopes ▸ List.Subset.refl _
  other := fun kind _ => scopes ▸ rfl

/-- An instruction that replaces the scope of a setting. -/
theorem changes_of_replaceScope {kind : Kind} {new : List Scope}
    (replaces : x.replaces? = some kind) (ambient : kind.isAmbient) (idle : d.scheduled = none)
    (once : (Scope.kinds d.scopes).Nodup) (newOnce : (Scope.kinds new).Nodup)
    (newKind : ∀ s ∈ new, s.kind = kind) :
    d.Changes x (d.replaceScope kind new fun _ => true) where
  segments := (extends_replaceScope ..).segments
  idle := (marked_replaceScope once newOnce newKind).scheduled.trans idle
  events := by
    obtain ⟨es, events, breaks⟩ := exists_events_replaceScope (d := d) ambient newKind
    refine ⟨es, events, fun b => ?_⟩
    simp [breaks b, replaces]
  inside := by
    intro other
    by_cases same : kind = other
    · subst same
      exact breaksInside_replaceScope_self once newOnce newKind
    · rw [breaksInside_replaceScope_other same ambient once newOnce newKind]
      exact List.Subset.refl _
  other := by
    intro other ne
    refine breaksInside_replaceScope_other ?_ ambient once newOnce newKind
    rintro rfl
    exact ne replaces

theorem changes_setVoice (sound : d.Sound) (idle : d.scheduled = none) (voice : Option Voice) :
    d.Changes (.voice voice) (d.setVoice voice) := by
  have changes := changes_of_replaceScope (d := { d with voice := voice }) (x := .voice voice) rfl
    rfl idle sound.once (Scope.nodup_kinds_ofVoice voice) fun _ => Scope.kind_of_mem_ofVoice
  exact { changes with }

theorem changes_setStyle (sound : d.Sound) (idle : d.scheduled = none) (style : Style)
    (replaces : x.replaces? = some .style) : d.Changes x (d.setStyle style) := by
  have newOnce : (Scope.kinds [Scope.style style]).Nodup := List.nodup_singleton _
  have newKind : ∀ s ∈ [Scope.style style], s.kind = .style := List.forall_mem_singleton.2 rfl
  have changes := changes_of_replaceScope (d := { d with style := style }) replaces rfl idle
    sound.once newOnce newKind
  exact { changes with }

/-- A segment with a text that ends is one segment more. -/
theorem HasText.length_endSegment (said : d.HasText) :
    d.endSegment.segments.length = d.segments.length + 1 := by
  obtain ⟨s, segments, -⟩ := said.endSegment
  rw [segments, List.length_cons]

theorem HasText.length_changeVolume {volume : Int} (said : d.HasText) (ne : volume ≠ d.volume) :
    (d.changeVolume volume).segments.length = d.segments.length + 1 := by
  rw [changeVolume, if_neg ne]
  exact said.length_endSegment

/-- **An instruction between two texts of a segment,** other than those about structure. -/
theorem changes_apply (sound : d.Sound) (idle : d.scheduled = none) (said : d.HasText)
    (plain : x.isStructural = false) (h : outcome (d.apply x) = .ok e)
    (few : e.segments.length ≤ d.segments.length) : d.Changes x e := by
  have now : d.applySchedule = d := applySchedule_of_idle idle
  cases x with
  | text words =>
    obtain ⟨words, chooser, rfl⟩ := apply_of_speaks rfl h
    rw [now]
    exact changes_of_same rfl rfl idle rfl ⟨[words], rfl⟩
  | template document =>
    obtain ⟨words, chooser, rfl⟩ := apply_of_speaks rfl h
    rw [now]
    exact changes_of_same rfl rfl idle rfl ⟨[words], rfl⟩
  | voice voice =>
    cases h
    change d.Changes _ (d.applySchedule.setVoice voice)
    rw [now]
    exact changes_setVoice sound idle voice
  | turn dial level =>
    cases dial with
    | outputVolume =>
      cases h
      change d.Changes _ ({ d with scheduled := none }.changeVolume level.val)
      by_cases same : level.val = d.volume
      · rw [changeVolume, if_pos same]
        exact changes_of_same rfl rfl rfl rfl ⟨[], rfl⟩
      · have more := HasText.length_changeVolume (d := { d with scheduled := none }) said same
        exact absurd (more.symm.trans_le few) (Nat.not_succ_le_self _)
    | rate =>
      cases h
      change d.Changes _ (d.applySchedule.setStyle _)
      rw [now]
      exact changes_setStyle sound idle _ rfl
    | emphasis =>
      cases h
      change d.Changes _ (d.applySchedule.setStyle _)
      rw [now]
      exact changes_setStyle sound idle _ rfl
    | voiceVolume =>
      cases h
      change d.Changes _ (d.applySchedule.setStyle _)
      rw [now]
      exact changes_setStyle sound idle _ rfl
  | interactive =>
    cases h
    change (_ :: d.applySchedule.endSegment.segments).length ≤ _ at few
    rw [now, List.length_cons, said.length_endSegment] at few
    omega
  | loop rounds => cases h
  | foreign what => cases h
  | reset | beginSentence | endSentence | beginParagraph | endParagraph => cases plain

/-- **A row of them:** the segment goes on with the breaks of what was reopened. -/
theorem exists_events_of_plain (sound : d.Sound) (idle : d.scheduled = none) (said : d.HasText)
    (plain : ∀ x ∈ xs, x.isStructural = false) (run : d.applyAll xs = .ok e)
    (few : e.segments.length ≤ d.segments.length) :
    e.scheduled = none ∧ ∃ es, e.events = es.reverse ++ d.events ∧
      ∀ b, b ∈ Event.breaks es ↔ b ∈ reopened xs d.scopes := by
  induction xs generalizing d with
  | nil =>
    cases run
    exact ⟨idle, [], rfl, fun b => Iff.rfl⟩
  | cons x xs ih =>
    obtain ⟨m, here, later⟩ := applyAll_cons_eq_ok run
    obtain ⟨plainHere, plainLater⟩ := List.forall_mem_cons.1 plain
    have sound' : m.Sound := eq_apply_of_outcome here ▸ sound.apply x
    have grown : m.segments <:+ e.segments := by
      have grows := grows_applyEach m xs
      rw [applyAll_eq_ok later] at grows
      exact grows.suffix
    have changes := changes_apply sound idle said plainHere here (grown.length_le.trans few)
    obtain ⟨es, events, breaks⟩ := changes.events
    have said' : m.HasText := by
      obtain ⟨words, mem⟩ := said
      exact ⟨words, by rw [events]; exact List.mem_append_right _ mem⟩
    obtain ⟨idle', es', events', breaks'⟩ := ih sound' changes.idle said' plainLater later
      (few.trans_eq (congrArg List.length changes.segments.symm))
    refine ⟨idle', es ++ es', by rw [events', events, List.reverse_append, List.append_assoc], ?_⟩
    intro b
    rw [Event.breaks, List.filterMap_append, List.mem_append]
    constructor
    · rintro (mem | mem)
      · obtain ⟨kind, replaces, inside⟩ := (breaks b).1 mem
        exact mem_reopened.2 ⟨x, List.mem_cons_self, kind, replaces, inside⟩
      · obtain ⟨y, memY, kind, replaces, inside⟩ := mem_reopened.1 ((breaks' b).1 mem)
        exact mem_reopened.2 ⟨y, List.mem_cons_of_mem _ memY, kind, replaces,
          changes.inside kind inside⟩
    · intro mem
      obtain ⟨y, memY, kind, replaces, inside⟩ := mem_reopened.1 mem
      by_cases same : x.replaces? = some kind
      · exact .inl ((breaks b).2 ⟨kind, same, inside⟩)
      · rcases List.mem_cons.1 memY with rfl | memY
        · exact absurd replaces same
        · refine .inr ((breaks' b).2 (mem_reopened.2 ⟨y, memY, kind, replaces, ?_⟩))
          rw [changes.other kind same]
          exact inside

end Draft
end Recital
