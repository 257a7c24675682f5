/-
# The places of a segment where something is said

A place is a text that is not blank, with the events before it.  These decide how the text is
said:

| of a place | from the events before it |
| --- | --- |
| scopes | opened and not closed, innermost first |
| voice, style | of the innermost voice scope and the innermost style scope |
| break | the strongest event of a sentence or a paragraph since the last place, if there is one |

The balance check has to do with kinds only: a closing event takes away the scope that was
opened last, whatever either of them sets.  Since no kind is open twice, a closing voice scope
leaves no other voice behind, and a style scope no other style.
-/

import Mathlib.Data.List.DropRight
import Recital.Proofs.Draft.Passage
import Recital.Run

namespace Recital

/-! ### Scopes -/

namespace Event

/-- The scopes that are open after an event. -/
def enter (scopes : List Scope) : Event → List Scope
  | .opening s => s :: scopes
  | .text _ => scopes
  | .closing _ => scopes.tail

/-- The scopes that are open after events, innermost first. -/
def scopesAfter (es : List Event) : List Scope := es.foldl enter []

theorem scopesAfter_concat (es : List Event) (e : Event) :
    scopesAfter (es ++ [e]) = e.enter (scopesAfter es) := by
  rw [scopesAfter, List.foldl_append]
  rfl

/-- The scopes that a replay leaves open are those that are open then. -/
theorem scopesAfter_of_replay {es : List Event} {after : List Scope}
    (h : replay [] es = some after) : scopesAfter es = after := by
  have step {scopes next : List Scope} {e : Event} (follows : follow? scopes e = some next) :
      e.enter scopes = next := by
    cases e with
    | opening s => exact (follow_opening_eq_some.1 follows).2.symm
    | text words => exact Option.some.inj follows
    | closing s =>
      rw [follow_closing_eq_some.1 follows]
      rfl
  rw [scopesAfter]
  generalize [] = scopes at h ⊢
  induction es generalizing scopes with
  | nil => exact Option.some.inj h
  | cons e es ih =>
    rw [replay_cons] at h
    obtain ⟨next, follows, rest⟩ := Option.bind_eq_some_iff.1 h
    rw [List.foldl_cons, step follows]
    exact ih next rest

/-- Whether an event is in order where scopes are open, by their kinds. -/
def InOrder (scopes : List Scope) : Event → Prop
  | .opening s => s.kind ∉ Scope.kinds scopes
  | .text _ => True
  | .closing s => ∃ top around, scopes = top :: around ∧ top.kind = s.kind

theorem InOrder.nodup {scopes : List Scope} {e : Event} (inOrder : e.InOrder scopes)
    (once : (Scope.kinds scopes).Nodup) : (Scope.kinds (e.enter scopes)).Nodup := by
  cases e with
  | opening s => exact List.nodup_cons.2 ⟨inOrder, once⟩
  | text words => exact once
  | closing s =>
    obtain ⟨top, around, rfl, -⟩ := inOrder
    exact (List.nodup_cons.1 once).2

end Event

/-- What the balance check establishes of the event in front. -/
theorem Segment.inOrder_of_checkEvents {scopes : List Scope} {e : Event} {es : List Event}
    (h : checkEvents (Scope.kinds scopes) (e :: es) = .ok ()) :
    e.InOrder scopes ∧ checkEvents (Scope.kinds (e.enter scopes)) es = .ok () := by
  cases e with
  | opening s =>
    rw [checkEvents] at h
    split at h
    · cases h
    · next fresh =>
      have notOpen : s.kind ∉ Scope.kinds scopes := by simpa using fresh
      exact ⟨notOpen, h⟩
  | text words => exact ⟨trivial, h⟩
  | closing s =>
    cases scopes with
    | nil => cases h
    | cons top around =>
      rw [Scope.kinds_cons, checkEvents] at h
      split at h
      · next same => exact ⟨⟨top, around, rfl, same⟩, h⟩
      · cases h

namespace Scope

variable {s : Scope} {scopes : List Scope}

theorem voiceOf_cons_of_ne (ne : s.kind ≠ .voice) : voiceOf (s :: scopes) = voiceOf scopes := by
  cases s with
  | voice v => exact absurd rfl ne
  | _ => rfl

theorem styleOf_cons_of_ne (ne : s.kind ≠ .style) : styleOf (s :: scopes) = styleOf scopes := by
  cases s with
  | style t => exact absurd rfl ne
  | _ => rfl

theorem voiceOf_of_notMem (closed : .voice ∉ kinds scopes) : voiceOf scopes = none := by
  induction scopes with
  | nil => rfl
  | cons s scopes ih =>
    rw [kinds_cons, List.mem_cons, not_or] at closed
    rw [voiceOf_cons_of_ne (Ne.symm closed.1), ih closed.2]

theorem styleOf_of_notMem (closed : .style ∉ kinds scopes) : styleOf scopes = {} := by
  induction scopes with
  | nil => rfl
  | cons s scopes ih =>
    rw [kinds_cons, List.mem_cons, not_or] at closed
    rw [styleOf_cons_of_ne (Ne.symm closed.1), ih closed.2]

/-- The break that the scope makes where it opens or closes. -/
def break? : Scope → Option Break
  | .voice _ | .style _ => none
  | .sentence => some .sentence
  | .paragraph => some .paragraph

end Scope

/-! ### Breaks -/

namespace Event

/-- What an event says, unless it is blank. -/
def spoken? : Event → Option Words
  | .text words => if Text.isBlankText words then none else some words
  | _ => none

/-- Whether an event says something. -/
def speaks (e : Event) : Bool := e.spoken?.isSome

/-- The break that an event makes. -/
def break? : Event → Option Break
  | .opening s | .closing s => s.break?
  | .text _ => none

theorem speaks_eq_false_of_break {e : Event} {b : Break} (h : e.break? = some b) :
    e.speaks = false := by
  cases e with
  | text words => cases h
  | _ => rfl

end Event

/-- The strongest of breaks. -/
def Break.strongest (bs : List Break) : Option Break :=
  if .paragraph ∈ bs then some .paragraph
  else if .sentence ∈ bs then some .sentence
  else none

namespace Break

theorem strongest_eq_none_iff {bs : List Break} : strongest bs = none ↔ bs = [] := by
  cases bs with
  | nil => exact iff_of_true rfl rfl
  | cons b bs =>
    cases b with
    | paragraph => simp [strongest]
    | sentence =>
      simp only [strongest, List.mem_cons, true_or, if_true, reduceCtorEq, iff_false]
      split <;> exact Option.some_ne_none _

/-- A paragraph break is not weakened by what comes behind it. -/
theorem strongest_concat (bs : List Break) (b : Break) :
    strongest (bs ++ [b]) =
      if strongest bs = some .paragraph then some .paragraph else some b := by
  cases b <;> simp [strongest]

/-- Which break is the strongest does not depend on order and number. -/
theorem strongest_congr {bs cs : List Break} (h : ∀ b, b ∈ bs ↔ b ∈ cs) :
    strongest bs = strongest cs := by
  simp only [strongest, h]

end Break

namespace Event

/-- The events since the last one that says something. -/
def sinceSpoken (es : List Event) : List Event := es.rtakeWhile fun e => !e.speaks

/-- The breaks that events make. -/
def breaks (es : List Event) : List Break := es.filterMap break?

/-- The break before what is said next: none where nothing was said. -/
def breakAfter (es : List Event) : Option Break :=
  if es.any speaks then Break.strongest (breaks (sinceSpoken es)) else none

variable {es : List Event} {e : Event}

theorem breakAfter_concat_of_speaks (speaks : e.speaks = true) : breakAfter (es ++ [e]) = none := by
  have none : sinceSpoken (es ++ [e]) = [] := by
    rw [sinceSpoken, List.rtakeWhile_concat, if_neg (by simp [speaks])]
  rw [breakAfter, none]
  exact ite_self _

theorem sinceSpoken_concat (silent : e.speaks = false) :
    sinceSpoken (es ++ [e]) = sinceSpoken es ++ [e] := by
  rw [sinceSpoken, List.rtakeWhile_concat, if_pos (by simp [silent])]
  rfl

theorem any_speaks_concat (silent : e.speaks = false) :
    (es ++ [e]).any speaks = es.any speaks := by
  simp [silent]

theorem breakAfter_concat_of_none (silent : e.speaks = false) (none : e.break? = none) :
    breakAfter (es ++ [e]) = breakAfter es := by
  have same : breaks (sinceSpoken es ++ [e]) = breaks (sinceSpoken es) := by simp [breaks, none]
  rw [breakAfter, any_speaks_concat silent, sinceSpoken_concat silent, same]
  rfl

theorem breakAfter_concat_of_some {b : Break} (some : e.break? = some b) :
    breakAfter (es ++ [e]) =
      if es.any speaks = false ∨ breakAfter es = .some .paragraph then breakAfter es
      else .some b := by
  have silent := speaks_eq_false_of_break some
  have more : breaks (sinceSpoken es ++ [e]) = breaks (sinceSpoken es) ++ [b] := by
    simp [breaks, some]
  rw [breakAfter, any_speaks_concat silent, sinceSpoken_concat silent, more,
    Break.strongest_concat, breakAfter]
  cases es.any speaks with
  | false => simp
  | true =>
    simp only [if_true, Bool.true_eq_false, false_or]
    split
    · next paragraph => exact paragraph.symm
    · rfl

/-- Behind something that is said, the break is that of the silent events since. -/
theorem breakAfter_of_silent {silent : List Event} (speaks : e.speaks = true)
    (quiet : ∀ f ∈ silent, f.speaks = false) :
    breakAfter (es ++ e :: silent) = Break.strongest (breaks silent) := by
  have since : sinceSpoken (es ++ e :: silent) = silent := by
    rw [sinceSpoken, List.rtakeWhile, List.reverse_append, List.reverse_cons, List.append_assoc,
      List.singleton_append, List.takeWhile_append_of_pos (by simpa using quiet),
      List.takeWhile_cons_of_neg (by simp [speaks]), List.append_nil, List.reverse_reverse]
  have said : (es ++ e :: silent).any Event.speaks = true := by simp [speaks]
  rw [breakAfter, said, since, if_pos rfl]

end Event

/-! ### Places -/

/-- A text that is not blank, with the events before it. -/
structure Place where
  before : List Event
  words : Words

namespace Place

/-- The scopes around a place, innermost first. -/
def scopes (p : Place) : List Scope := Event.scopesAfter p.before

/-- The voice of a place. -/
def voice (p : Place) : Option Voice := Scope.voiceOf p.scopes

/-- The style of a place. -/
def style (p : Place) : Style := Scope.styleOf p.scopes

/-- The break before a place. -/
def break? (p : Place) : Option Break := Event.breakAfter p.before

end Place

/-- The places among events, with the events before them. -/
def Event.placesFrom (before : List Event) : List Event → List Place
  | [] => []
  | e :: es => (e.spoken?.map (Place.mk before)).toList ++ placesFrom (before ++ [e]) es

theorem Event.placesFrom_append (before es fs : List Event) :
    placesFrom before (es ++ fs) = placesFrom before es ++ placesFrom (before ++ es) fs := by
  induction es generalizing before with
  | nil => rw [List.nil_append, List.append_nil, placesFrom, List.nil_append]
  | cons e es ih =>
    rw [List.cons_append, placesFrom, placesFrom, ih, List.append_assoc, List.append_assoc]
    rfl

theorem Event.map_words_placesFrom (before es : List Event) :
    (placesFrom before es).map Place.words = es.filterMap spoken? := by
  induction es generalizing before with
  | nil => rfl
  | cons e es ih =>
    rw [placesFrom, List.map_append, ih]
    cases said : e.spoken? with
    | none => rw [List.filterMap_cons_none said]; rfl
    | some words => rw [List.filterMap_cons_some said]; rfl

/-- Nothing is said between the start and the first place. -/
theorem Event.any_speaks_of_head {before es : List Event} {p : Place}
    (mem : p ∈ (placesFrom before es).head?) : p.before.any speaks = before.any speaks := by
  induction es generalizing before with
  | nil => cases mem
  | cons e es ih =>
    rw [placesFrom] at mem
    cases said : e.spoken? with
    | some words =>
      rw [said] at mem
      obtain rfl : Place.mk before words = p := Option.some.inj mem
      rfl
    | none =>
      rw [said] at mem
      have silent : e.speaks = false := by rw [speaks, said]; rfl
      exact (ih mem).trans (any_speaks_concat silent)

/-- The first place among events: nothing is said before it. -/
theorem Event.placesFrom_eq_cons {before es : List Event} {p : Place} {ps : List Place}
    (h : placesFrom before es = p :: ps) :
    ∃ silent later, es = silent ++ .text p.words :: later ∧ p.before = before ++ silent ∧
      (∀ f ∈ silent, f.speaks = false) ∧ (Event.text p.words).speaks = true ∧
      ps = placesFrom (p.before ++ [.text p.words]) later := by
  induction es generalizing before with
  | nil => cases h
  | cons e es ih =>
    rw [placesFrom] at h
    cases said : e.spoken? with
    | some words =>
      rw [said] at h
      obtain ⟨rfl, rfl⟩ := List.cons.inj h
      have here : e = .text words := by
        cases e with
        | text w =>
          rw [spoken?] at said
          split at said
          · cases said
          · rw [Option.some.inj said]
        | _ => cases said
      refine ⟨[], es, by rw [here]; rfl, (List.append_nil _).symm, List.forall_mem_nil _, ?_, ?_⟩
      · rw [← here, speaks, said]
        rfl
      · rw [here]
        rfl
    | none =>
      rw [said] at h
      obtain ⟨silent, later, rfl, place, quiet, speaks, rest⟩ := ih h
      refine ⟨e :: silent, later, rfl, ?_, ?_, speaks, rest⟩
      · rw [place, List.append_assoc]
        rfl
      · refine List.forall_mem_cons.2 ⟨?_, quiet⟩
        rw [Event.speaks, said]
        rfl

/-- Any place among events. -/
theorem Event.placesFrom_eq_append {before es : List Event} {p : Place} {ps qs : List Place}
    (h : placesFrom before es = ps ++ p :: qs) :
    ∃ earlier later, es = earlier ++ .text p.words :: later ∧ p.before = before ++ earlier ∧
      (Event.text p.words).speaks = true ∧
      qs = placesFrom (p.before ++ [.text p.words]) later := by
  induction ps generalizing before es with
  | nil =>
    obtain ⟨silent, later, split, place, -, speaks, rest⟩ := placesFrom_eq_cons h
    exact ⟨silent, later, split, place, speaks, rest⟩
  | cons o ps ih =>
    obtain ⟨silent, later, rfl, place, -, -, rest⟩ := placesFrom_eq_cons h
    obtain ⟨earlier, last, rfl, place', speaks, rest'⟩ := ih rest.symm
    refine ⟨silent ++ .text o.words :: earlier, last, ?_, ?_, speaks, rest'⟩
    · simp only [List.append_assoc, List.cons_append]
    · rw [place', place]
      simp only [List.append_assoc, List.cons_append, List.nil_append]

namespace Segment

/-- The places of a segment. -/
def places (s : Segment) : List Place := Event.placesFrom [] s.events

/-- The texts of a segment that are not blank. -/
def spokenTexts (s : Segment) : List Words := s.texts.filter fun words => !Text.isBlankText words

/-- Every text that is not blank has a place, in order. -/
theorem map_words_places (s : Segment) : s.places.map Place.words = s.spokenTexts := by
  have same : Event.spoken? = fun e =>
      e.words?.bind (Option.guard fun words => !Text.isBlankText words) := by
    funext e
    cases e with
    | text words =>
      rw [Event.spoken?, Event.words?, Option.bind_some, Option.guard]
      cases Text.isBlankText words <;> rfl
    | _ => rfl
  rw [places, Event.map_words_placesFrom, spokenTexts, texts, same, ← List.filterMap_filterMap,
    List.filterMap_eq_filter]

/-- There is no break before the first place. -/
theorem break?_of_head (s : Segment) {p : Place} (mem : p ∈ s.places.head?) : p.break? = none := by
  have first : p.before.any Event.speaks = false := Event.any_speaks_of_head mem
  rw [Place.break?, Event.breakAfter, first]
  rfl

/-- A place is where its text stands. -/
theorem events_eq_of_mem_places {s : Segment} {p : Place} (mem : p ∈ s.places) :
    ∃ later, s.events = p.before ++ .text p.words :: later := by
  obtain ⟨ps, qs, places⟩ := List.append_of_mem mem
  obtain ⟨earlier, later, split, place, -, -⟩ := Event.placesFrom_eq_append places
  rw [List.nil_append] at place
  exact ⟨later, by rw [split, place]⟩

/-- Between neighbouring places nothing is said. -/
theorem before_eq_of_neighbours {s : Segment} {ps qs : List Place} {p q : Place}
    (h : s.places = ps ++ p :: q :: qs) :
    ∃ silent, q.before = p.before ++ .text p.words :: silent ∧
      (∀ f ∈ silent, f.speaks = false) ∧ (Event.text p.words).speaks = true := by
  obtain ⟨earlier, later, -, -, speaks, rest⟩ := Event.placesFrom_eq_append h
  obtain ⟨silent, last, -, place, quiet, -, -⟩ := Event.placesFrom_eq_cons rest.symm
  refine ⟨silent, ?_, quiet, speaks⟩
  rw [place, List.append_assoc, List.singleton_append]

end Segment
end Recital
