/-
# What a draft does to its scopes

Opening, closing and replacing scopes are markup: they add events that say nothing, and
the scopes that are open afterwards are what a replay of those events leaves open.
`Marked` is that relation between a draft and a later one, with everything that markup
leaves alone.  `replaceScope_spec` is the one fact about replacing a scope from which the
rest follows: of the scopes `inside ++ gone ++ around`, with at most one in `gone`, it
makes `inside.filter keep ++ new ++ around`.

Two views of a stack matter later.  `ofKind` is the scopes of one kind, of which replacing
another kind changes nothing that it keeps; `nesting` is the kinds of the structural
scopes, which replacing a setting does not change and for which replacing a structural
scope is `close`, whatever settings are interleaved.
-/

import Recital.Draft
import Recital.Proofs.Segment.Replay

namespace Recital

namespace Scope

theorem splitAt?_eq_none {kind : Kind} {scopes : List Scope}
    (h : splitAt? kind scopes = none) : ∀ s ∈ scopes, s.kind ≠ kind := by
  induction scopes with
  | nil => simp
  | cons s scopes ih =>
    rw [splitAt?] at h
    split at h
    · simp at h
    · rename_i other
      intro t mem
      rcases List.mem_cons.1 mem with rfl | mem
      · exact other
      · exact ih (Option.map_eq_none_iff.1 h) t mem

theorem splitAt?_eq_some {kind : Kind} {scopes inside around : List Scope} {found : Scope}
    (h : splitAt? kind scopes = some (inside, found, around)) :
    scopes = inside ++ found :: around ∧ found.kind = kind ∧ ∀ s ∈ inside, s.kind ≠ kind := by
  induction scopes generalizing inside with
  | nil => simp [splitAt?] at h
  | cons s scopes ih =>
    rw [splitAt?] at h
    split at h
    · rename_i same
      cases h
      exact ⟨rfl, same, by simp⟩
    · rename_i other
      obtain ⟨⟨inside, found, around⟩, split, same⟩ := Option.map_eq_some_iff.1 h
      cases same
      obtain ⟨rfl, kind, apart⟩ := ih split
      refine ⟨rfl, kind, ?_⟩
      intro t mem
      rcases List.mem_cons.1 mem with rfl | mem
      · exact other
      · exact apart t mem

/-- The scopes of a kind. -/
def ofKind (kind : Kind) (scopes : List Scope) : List Scope :=
  scopes.filter fun s => s.kind = kind

@[simp] theorem ofKind_nil (kind : Kind) : ofKind kind [] = [] := rfl

@[simp] theorem ofKind_append (kind : Kind) (inside around : List Scope) :
    ofKind kind (inside ++ around) = ofKind kind inside ++ ofKind kind around :=
  List.filter_append ..

theorem ofKind_eq_nil {kind : Kind} {scopes : List Scope} :
    ofKind kind scopes = [] ↔ ∀ s ∈ scopes, s.kind ≠ kind := by
  simp [ofKind]

theorem ofKind_eq_self {kind : Kind} {scopes : List Scope} (h : ∀ s ∈ scopes, s.kind = kind) :
    ofKind kind scopes = scopes :=
  List.filter_eq_self.2 (by simpa using h)

/-- Leaving out scopes of other kinds changes nothing. -/
theorem ofKind_filter {kind : Kind} {keep : Scope → Bool} (h : ∀ s, s.kind = kind → keep s)
    (scopes : List Scope) : ofKind kind (scopes.filter keep) = ofKind kind scopes := by
  rw [ofKind, ofKind, List.filter_filter]
  exact List.filter_congr fun s _ => by
    by_cases same : s.kind = kind
    · simp [same, h s same]
    · simp [same]

/-- The kinds of the sentence and paragraph scopes, innermost first. -/
def nesting (scopes : List Scope) : List Kind :=
  (kinds scopes).filter fun k => !k.isAmbient

@[simp] theorem nesting_nil : nesting [] = [] := rfl

@[simp] theorem nesting_append (inside around : List Scope) :
    nesting (inside ++ around) = nesting inside ++ nesting around := by
  simp [nesting]

theorem nesting_eq_nil {scopes : List Scope} (h : ∀ s ∈ scopes, s.kind.isAmbient) :
    nesting scopes = [] := by
  simpa [nesting, kinds] using h

theorem mem_nesting {kind : Kind} {scopes : List Scope} (structural : kind.isAmbient = false) :
    kind ∈ nesting scopes ↔ ∃ s ∈ scopes, s.kind = kind := by
  simp [nesting, kinds, structural]

/-- The scope of a voice in force. -/
def ofVoice (voice : Option Voice) : List Scope := voice.toList.map fun v => .voice (some v)

/-- The scope of a style in force; a plain style needs none. -/
def ofStyle (style : Style) : List Scope := if style.isPlain then [] else [.style style]

theorem kind_of_mem_ofVoice {voice : Option Voice} {s : Scope} (h : s ∈ ofVoice voice) :
    s.kind = .voice := by
  obtain ⟨v, _, rfl⟩ := List.mem_map.1 h
  rfl

theorem kind_of_mem_ofStyle {style : Style} {s : Scope} (h : s ∈ ofStyle style) :
    s.kind = .style := by
  rw [ofStyle] at h
  split at h
  · simp at h
  · obtain rfl := List.mem_singleton.1 h
    rfl

theorem nodup_kinds_ofVoice (voice : Option Voice) : (kinds (ofVoice voice)).Nodup := by
  cases voice <;> simp [ofVoice]

theorem reverse_ofVoice (voice : Option Voice) : (ofVoice voice).reverse = ofVoice voice := by
  cases voice <;> rfl

theorem reverse_ofStyle (style : Style) : (ofStyle style).reverse = ofStyle style := by
  rw [ofStyle]
  split <;> rfl

/-- The scopes that a segment starts with are one voice and one style scope at most. -/
theorem nodup_kinds_settings (voice : Option Voice) (style : Style) :
    (kinds (ofStyle style ++ ofVoice voice)).Nodup := by
  rw [ofStyle]
  split <;> cases voice <;> simp [ofVoice, Scope.kind]

end Scope

/-- What is left of a nesting when a kind is closed with everything inside it; where it is
not open, all of it. -/
def Kind.close (kind : Kind) (nesting : List Kind) : List Kind :=
  if kind ∈ nesting then (nesting.dropWhile fun k => k ≠ kind).tail else nesting

theorem Kind.close_of_not_mem {kind : Kind} {nesting : List Kind} (h : kind ∉ nesting) :
    kind.close nesting = nesting :=
  if_neg h

theorem Kind.close_append_cons {kind : Kind} {inside : List Kind} (h : kind ∉ inside)
    (around : List Kind) : kind.close (inside ++ kind :: around) = around := by
  have skip : ∀ k ∈ inside, decide (k ≠ kind) = true := by
    intro k mem
    exact decide_eq_true fun same => h (same ▸ mem)
  rw [close, if_pos (by simp), List.dropWhile_append_of_pos skip]
  simp

namespace Draft

/-- `after` is `before` with markup added: scopes were opened and closed, in order, and
nothing was said. -/
structure Marked (before after : Draft) : Prop where
  markup : ∃ es, (∀ e ∈ es, Event.IsMarkup e) ∧ after.events = es.reverse ++ before.events ∧
    Event.replay before.scopes es = some after.scopes
  voice : after.voice = before.voice
  style : after.style = before.style
  volume : after.volume = before.volume
  scheduled : after.scheduled = before.scheduled
  segments : after.segments = before.segments
  chooser : after.chooser = before.chooser

theorem Marked.trans {a b c : Draft} (ab : a.Marked b) (bc : b.Marked c) : a.Marked c := by
  obtain ⟨es, silent, events, replay⟩ := ab.markup
  obtain ⟨fs, silent', events', replay'⟩ := bc.markup
  refine ⟨⟨es ++ fs, ?_, ?_, ?_⟩, bc.voice.trans ab.voice, bc.style.trans ab.style,
    bc.volume.trans ab.volume, bc.scheduled.trans ab.scheduled, bc.segments.trans ab.segments,
    bc.chooser.trans ab.chooser⟩
  · intro e mem
    exact (List.mem_append.1 mem).elim (silent e) (silent' e)
  · rw [events', events, List.reverse_append, List.append_assoc]
  · rw [Event.replay_append, replay, Option.bind_some, replay']

@[simp] theorem openScopes_scopes (d : Draft) (scopes : List Scope) :
    (d.openScopes scopes).scopes = scopes.reverse ++ d.scopes := rfl

theorem marked_openScopes {d : Draft} {scopes : List Scope}
    (once : (Scope.kinds (scopes.reverse ++ d.scopes)).Nodup) : d.Marked (d.openScopes scopes) :=
  ⟨⟨scopes.map Event.opening, Event.markup_map_opening scopes, by simp [openScopes],
    Event.replay_openings once⟩, rfl, rfl, rfl, rfl, rfl, rfl⟩

/-- Closing the innermost scopes is markup. -/
theorem marked_closing {d : Draft} {inside around : List Scope}
    (h : d.scopes = inside ++ around) :
    d.Marked { d with
      scopes := around, events := inside.reverse.map Event.closing ++ d.events } :=
  ⟨⟨inside.map Event.closing, Event.markup_map_closing inside, by simp,
    h ▸ Event.replay_closings inside around⟩, rfl, rfl, rfl, rfl, rfl, rfl⟩

theorem marked_closeAll (d : Draft) : d.Marked d.closeAll :=
  marked_closing (List.append_nil _).symm

/-- **Replacing a scope** takes the scope of that kind off the stack, if there is one, puts
the new ones in its place and keeps some of what was inside. -/
theorem replaceScope_spec {d : Draft} {kind : Kind} {new : List Scope} (keep : Scope → Bool)
    (once : (Scope.kinds d.scopes).Nodup) (newOnce : (Scope.kinds new).Nodup)
    (newKind : ∀ s ∈ new, s.kind = kind) :
    ∃ inside, ∃ gone : Option Scope, ∃ around,
      d.scopes = inside ++ gone.toList ++ around ∧
      (d.replaceScope kind new keep).scopes = inside.filter keep ++ new.reverse ++ around ∧
      (∀ s ∈ gone, s.kind = kind) ∧ (∀ s ∈ inside ++ around, s.kind ≠ kind) ∧
      (gone = none → inside = []) ∧ d.Marked (d.replaceScope kind new keep) := by
  have newOnce' : (Scope.kinds new.reverse).Nodup := by
    rw [Scope.kinds, List.map_reverse]
    exact List.nodup_reverse.2 newOnce
  -- Scopes of other kinds may stand around the new ones as long as they do so once.
  have fits : ∀ around : List Scope, (Scope.kinds around).Nodup →
      (∀ s ∈ around, s.kind ≠ kind) → (Scope.kinds (new.reverse ++ around)).Nodup := by
    intro around aroundOnce apart
    rw [Scope.kinds_append]
    refine newOnce'.append aroundOnce ?_
    intro k memNew memAround
    obtain ⟨s, mem, rfl⟩ := List.mem_map.1 memNew
    obtain ⟨t, mem', same⟩ := List.mem_map.1 memAround
    exact apart t mem' (same.trans (newKind s (List.mem_reverse.1 mem)))
  rw [replaceScope]
  split
  · rename_i absent
    have apart := Scope.splitAt?_eq_none absent
    exact ⟨[], none, d.scopes, rfl, rfl, by simp, by simpa using apart, by simp,
      marked_openScopes (fits _ once apart)⟩
  · rename_i inside found around present
    obtain ⟨scopes, foundKind, apart⟩ := Scope.splitAt?_eq_some present
    have onceSplit : (Scope.kinds (inside ++ found :: around)).Nodup := scopes ▸ once
    rw [Scope.kinds_append, Scope.kinds_cons, foundKind] at onceSplit
    have aroundOnce := List.nodup_cons.1 onceSplit.of_append_right
    have apart' : ∀ s ∈ around, s.kind ≠ kind := by
      rintro s mem rfl
      exact aroundOnce.1 (List.mem_map_of_mem mem)
    have bothApart : ∀ s ∈ inside.filter keep ++ around, s.kind ≠ kind := by
      intro s mem
      rcases List.mem_append.1 mem with mem | mem
      · exact apart s (List.mem_filter.1 mem).1
      · exact apart' s mem
    have keptOnce : (Scope.kinds (inside.filter keep ++ around)).Nodup := by
      refine onceSplit.sublist ?_
      rw [Scope.kinds_append]
      exact (List.filter_sublist.map _).append (List.sublist_cons_self ..)
    refine ⟨inside, some found, around, by simp [scopes], by simp [openScopes],
      by simpa using foundKind, ?_, by simp, ?_⟩
    · intro s mem
      exact (List.mem_append.1 mem).elim (apart s) (apart' s)
    · have closing : d.Marked { d with
          scopes := around
          events := (inside ++ [found]).reverse.map Event.closing ++ d.events } :=
        marked_closing (by simp [scopes])
      rw [List.reverse_append, List.reverse_singleton, List.singleton_append] at closing
      refine closing.trans (marked_openScopes ?_)
      have perm : ((new ++ inside.reverse.filter keep).reverse ++ around).Perm
          (new.reverse ++ (inside.filter keep ++ around)) := by
        rw [List.filter_reverse, List.reverse_append, List.reverse_reverse,
          ← List.append_assoc]
        exact List.perm_append_comm.append_right _
      exact (perm.map Scope.kind).nodup_iff.2 (fits _ keptOnce bothApart)

section Replacing

variable {d : Draft} {kind : Kind} {new : List Scope} {keep : Scope → Bool}

theorem marked_replaceScope (once : (Scope.kinds d.scopes).Nodup)
    (newOnce : (Scope.kinds new).Nodup) (newKind : ∀ s ∈ new, s.kind = kind) :
    d.Marked (d.replaceScope kind new keep) := by
  obtain ⟨_, _, _, _, _, _, _, _, marked⟩ := replaceScope_spec keep once newOnce newKind
  exact marked

theorem ofKind_replaceScope_self (once : (Scope.kinds d.scopes).Nodup)
    (newOnce : (Scope.kinds new).Nodup) (newKind : ∀ s ∈ new, s.kind = kind) :
    Scope.ofKind kind (d.replaceScope kind new keep).scopes = new.reverse := by
  obtain ⟨inside, gone, around, _, after, _, apart, _⟩ :=
    replaceScope_spec keep once newOnce newKind
  have insideApart : Scope.ofKind kind (inside.filter keep) = [] :=
    Scope.ofKind_eq_nil.2 fun s mem =>
      apart s (List.mem_append_left _ (List.mem_filter.1 mem).1)
  have aroundApart : Scope.ofKind kind around = [] :=
    Scope.ofKind_eq_nil.2 fun s mem => apart s (List.mem_append_right _ mem)
  rw [after, Scope.ofKind_append, Scope.ofKind_append, insideApart, aroundApart,
    Scope.ofKind_eq_self (by simpa using newKind), List.nil_append, List.append_nil]

theorem ofKind_replaceScope_other {other : Kind} (ne : other ≠ kind)
    (kept : ∀ s : Scope, s.kind = other → keep s) (once : (Scope.kinds d.scopes).Nodup)
    (newOnce : (Scope.kinds new).Nodup) (newKind : ∀ s ∈ new, s.kind = kind) :
    Scope.ofKind other (d.replaceScope kind new keep).scopes = Scope.ofKind other d.scopes := by
  obtain ⟨inside, gone, around, before, after, goneKind, _⟩ :=
    replaceScope_spec keep once newOnce newKind
  have newApart : Scope.ofKind other new.reverse = [] :=
    Scope.ofKind_eq_nil.2 fun s mem same =>
      ne (same.symm.trans (newKind s (List.mem_reverse.1 mem)))
  have goneApart : Scope.ofKind other gone.toList = [] :=
    Scope.ofKind_eq_nil.2 fun s mem same =>
      ne (same.symm.trans (goneKind s (Option.mem_toList.1 mem)))
  simp [before, after, newApart, goneApart, Scope.ofKind_filter kept]

/-- Replacing a setting does not touch the structure. -/
theorem nesting_replaceScope_ambient (ambient : kind.isAmbient)
    (once : (Scope.kinds d.scopes).Nodup) (newOnce : (Scope.kinds new).Nodup)
    (newKind : ∀ s ∈ new, s.kind = kind) :
    Scope.nesting (d.replaceScope kind new fun _ => true).scopes = Scope.nesting d.scopes := by
  obtain ⟨inside, gone, around, before, after, goneKind, _⟩ :=
    replaceScope_spec (fun _ => true) once newOnce newKind
  have newAmbient : Scope.nesting new.reverse = [] :=
    Scope.nesting_eq_nil fun s mem => newKind s (List.mem_reverse.1 mem) ▸ ambient
  have goneAmbient : Scope.nesting gone.toList = [] :=
    Scope.nesting_eq_nil fun s mem => goneKind s (Option.mem_toList.1 mem) ▸ ambient
  have all : inside.filter (fun _ => true) = inside := List.filter_eq_self.2 fun _ _ => rfl
  simp [before, after, newAmbient, goneAmbient, all]

/-- Replacing a structural scope closes it with the structure inside, whatever settings
are open in between. -/
theorem nesting_replaceScope_structural (structural : kind.isAmbient = false)
    (once : (Scope.kinds d.scopes).Nodup) (newOnce : (Scope.kinds new).Nodup)
    (newKind : ∀ s ∈ new, s.kind = kind) :
    Scope.nesting (d.replaceScope kind new fun s => s.kind.isAmbient).scopes =
      Scope.nesting new.reverse ++ kind.close (Scope.nesting d.scopes) := by
  obtain ⟨inside, gone, around, before, after, goneKind, apart, whole, _⟩ :=
    replaceScope_spec (fun s => s.kind.isAmbient) once newOnce newKind
  have insideAmbient : Scope.nesting (inside.filter fun s => s.kind.isAmbient) = [] :=
    Scope.nesting_eq_nil fun s mem => (List.mem_filter.1 mem).2
  have outside : ∀ scopes, (∀ s ∈ scopes, s ∈ inside ++ around) →
      kind ∉ Scope.nesting scopes := by
    intro scopes sub mem
    obtain ⟨s, mem, same⟩ := (Scope.mem_nesting structural).1 mem
    exact apart s (sub s mem) same
  rw [after, Scope.nesting_append, Scope.nesting_append, insideAmbient, List.nil_append]
  congr 1
  cases gone with
  | none =>
    obtain rfl := whole rfl
    rw [before]
    exact (Kind.close_of_not_mem (outside _ fun s mem => List.mem_append_right _ mem)).symm
  | some found =>
    have foundKind : Scope.nesting [found] = [kind] := by
      simp [Scope.nesting, goneKind found rfl, structural]
    rw [before, Scope.nesting_append, Scope.nesting_append, Option.toList_some, foundKind,
      List.append_assoc, List.singleton_append]
    exact (Kind.close_append_cons
      (outside inside fun s mem => List.mem_append_left _ mem) _).symm

end Replacing

variable {d : Draft}

theorem setVoice_eq (d : Draft) (voice : Option Voice) :
    d.setVoice voice =
      { d with voice := voice }.replaceScope .voice (Scope.ofVoice voice) fun _ => true := rfl

/-- Where nothing is open, the settings in force are the only scopes that are opened. -/
theorem openSettings_scopes (h : d.scopes = []) :
    d.openSettings.scopes = Scope.ofStyle d.style ++ Scope.ofVoice d.voice := by
  change (Scope.ofVoice d.voice ++ Scope.ofStyle d.style).reverse ++ d.scopes = _
  rw [h, List.reverse_append, Scope.reverse_ofVoice, Scope.reverse_ofStyle, List.append_nil]

theorem marked_openSettings (h : d.scopes = []) : d.Marked d.openSettings := by
  have once : (Scope.kinds d.openSettings.scopes).Nodup :=
    openSettings_scopes h ▸ Scope.nodup_kinds_settings d.voice d.style
  exact marked_openScopes once

theorem nesting_openSettings (h : d.scopes = []) : Scope.nesting d.openSettings.scopes = [] := by
  rw [openSettings_scopes h]
  refine Scope.nesting_eq_nil ?_
  intro s mem
  rcases List.mem_append.1 mem with mem | mem
  · rw [Scope.kind_of_mem_ofStyle mem]
    rfl
  · rw [Scope.kind_of_mem_ofVoice mem]
    rfl

end Draft
end Recital
