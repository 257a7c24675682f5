/-
# Runs are the places of a segment, joined

Flattening keeps no stack: it carries the voice and style in force, and the break since the
last text.  On a segment that is balanced these are what the scopes and events before a place
say they are (`Flattening.At`), so before anything is joined there is one run for each place.

Joining then puts neighbours together, and its result is read off the places: they fall into
groups, one for each run, in order.

| of a run | from its group of places |
| --- | --- |
| text | their texts, with spaces between them |
| voice, style | those of every one of them |
| break | that of the first; the others have none |

Neighbouring runs are apart, so no two of them could have been joined.
-/

import Mathlib.Data.List.Forall2
import Mathlib.Data.List.SplitBy
import Recital.Proofs.Segment.Place

namespace Recital

theorem Words.intercalate_append {sep : Words} {xs ys : List Words} (left : xs ≠ [])
    (right : ys ≠ []) :
    List.intercalate sep (xs ++ ys) =
      List.intercalate sep xs ++ sep ++ List.intercalate sep ys := by
  induction xs with
  | nil => exact absurd rfl left
  | cons x xs ih =>
    cases xs with
    | nil => rw [List.singleton_append, List.intercalate_cons_of_ne_nil right,
        List.intercalate_singleton]
    | cons x' xs =>
      have rest := ih (List.cons_ne_nil _ _)
      rw [List.cons_append] at rest
      rw [List.cons_append, List.cons_append, List.intercalate_cons_cons, rest,
        List.intercalate_cons_cons]
      simp only [List.append_assoc]

/-! ### One run for each place -/

/-- The run that a place makes by itself. -/
def Place.alone (p : Place) : Run where
  text := p.words
  voice := p.voice
  style := p.style
  boundary := p.break?

/-- Whether nothing separates two neighbouring places. -/
def Place.joins (p q : Place) : Bool := p.alone.joins q.alone

/-- The places of a segment, in groups that nothing separates. -/
def Segment.groups (s : Segment) : List (List Place) := s.places.splitBy Place.joins

theorem Segment.flatten_groups (s : Segment) : s.groups.flatten = s.places :=
  List.flatten_splitBy ..

namespace Flattening

/-- Whether a flattening is what the events so far make of it. -/
structure At (f : Flattening) (before : List Event) : Prop where
  runs : f.runs.reverse = (Event.placesFrom [] before).map Place.alone
  voice : f.voice = Scope.voiceOf (Event.scopesAfter before)
  style : f.style = Scope.styleOf (Event.scopesAfter before)
  boundary : f.boundary = Event.breakAfter before

variable {f : Flattening} {before : List Event} {e : Event}

theorem at_nil : At {} [] := ⟨rfl, rfl, rfl, rfl⟩

/-- There are runs exactly if something was said. -/
theorem At.runs_eq_nil_iff (h : f.At before) : f.runs = [] ↔ before.any Event.speaks = false := by
  have places : f.runs = [] ↔ (Event.placesFrom [] before).map Place.words = [] := by
    rw [← List.reverse_eq_nil_iff, h.runs, List.map_eq_nil_iff, List.map_eq_nil_iff]
  rw [places, Event.map_words_placesFrom, List.filterMap_eq_nil_iff]
  simp [Event.speaks]

/-- An event that says nothing adds no run. -/
theorem At.silent {g : Flattening} (h : f.At before) (silent : e.speaks = false)
    (runs : g.runs = f.runs) (voice : g.voice = Scope.voiceOf (e.enter (Event.scopesAfter before)))
    (style : g.style = Scope.styleOf (e.enter (Event.scopesAfter before)))
    (boundary : g.boundary = Event.breakAfter (before ++ [e])) : g.At (before ++ [e]) where
  runs := by
    have none : e.spoken? = none := by simpa [Event.speaks] using silent
    have nowhere : Event.placesFrom before [e] = [] := by
      rw [Event.placesFrom, none]
      rfl
    rw [runs, h.runs, Event.placesFrom_append, List.nil_append, nowhere, List.append_nil]
  voice := by rw [voice, Event.scopesAfter_concat]
  style := by rw [style, Event.scopesAfter_concat]
  boundary := boundary

/-- An event that makes no break either leaves the break as it is. -/
theorem At.quiet {g : Flattening} (h : f.At before) (silent : e.speaks = false)
    (none : e.break? = none) (runs : g.runs = f.runs) (boundary : g.boundary = f.boundary)
    (voice : g.voice = Scope.voiceOf (e.enter (Event.scopesAfter before)))
    (style : g.style = Scope.styleOf (e.enter (Event.scopesAfter before))) :
    g.At (before ++ [e]) := by
  refine h.silent silent runs voice style ?_
  rw [boundary, h.boundary, Event.breakAfter_concat_of_none silent none]

theorem At.say (h : f.At before) (words : Words) :
    (f.say words).At (before ++ [.text words]) := by
  rw [Flattening.say]
  split
  · next blank =>
    have silent : (Event.text words).speaks = false := by simp [Event.speaks, Event.spoken?, blank]
    exact h.quiet silent rfl rfl rfl h.voice h.style
  · next heard =>
    have said : (Event.text words).spoken? = some words := by simp [Event.spoken?, heard]
    have here : Event.placesFrom before [.text words] = [⟨before, words⟩] := by
      rw [Event.placesFrom, said]
      rfl
    have alone : Place.alone ⟨before, words⟩ = ⟨words, f.voice, f.style, f.boundary⟩ := by
      rw [h.voice, h.style, h.boundary]
      rfl
    constructor
    · dsimp only
      rw [List.reverse_cons, h.runs, Event.placesFrom_append, List.nil_append, here,
        List.map_append, List.map_singleton, alone]
    · rw [Event.scopesAfter_concat]
      exact h.voice
    · rw [Event.scopesAfter_concat]
      exact h.style
    · rw [Event.breakAfter_concat_of_speaks (by rw [Event.speaks, said]; rfl)]

/-- Noting a break is what the event makes of the break before what is said next. -/
theorem At.note {b : Break} (h : f.At before) (makes : e.break? = some b)
    (voice : Scope.voiceOf (e.enter (Event.scopesAfter before)) =
      Scope.voiceOf (Event.scopesAfter before))
    (style : Scope.styleOf (e.enter (Event.scopesAfter before)) =
      Scope.styleOf (Event.scopesAfter before)) :
    (f.note b).At (before ++ [e]) := by
  have silent := Event.speaks_eq_false_of_break makes
  have noRuns : f.runs.isEmpty = true ↔ before.any Event.speaks = false := by
    rw [List.isEmpty_iff, h.runs_eq_nil_iff]
  have kept : (f.runs.isEmpty || f.boundary == some .paragraph) = true ↔
      before.any Event.speaks = false ∨ Event.breakAfter before = some .paragraph := by
    rw [Bool.or_eq_true, noRuns, h.boundary, beq_iff_eq]
  have after : Event.breakAfter (before ++ [e]) =
      if before.any Event.speaks = false ∨ Event.breakAfter before = some .paragraph
      then Event.breakAfter before else some b := Event.breakAfter_concat_of_some makes
  rw [Flattening.note]
  split
  · next keeps =>
    rw [if_pos (kept.1 keeps)] at after
    exact h.silent silent rfl (h.voice.trans voice.symm) (h.style.trans style.symm)
      (h.boundary.trans after.symm)
  · next changes =>
    rw [if_neg (mt kept.2 changes)] at after
    exact h.silent silent rfl (h.voice.trans voice.symm) (h.style.trans style.symm) after.symm

/-- One event that is in order takes a flattening along. -/
theorem At.step (h : f.At before) (inOrder : e.InOrder (Event.scopesAfter before))
    (once : (Scope.kinds (Event.scopesAfter before)).Nodup) :
    (f.step e).At (before ++ [e]) := by
  cases e with
  | text words => exact h.say words
  | opening s =>
    cases s with
    | voice v =>
      refine h.quiet rfl rfl rfl rfl rfl ?_
      exact h.style.trans (Scope.styleOf_cons_of_ne Kind.noConfusion).symm
    | style t =>
      refine h.quiet rfl rfl rfl rfl ?_ rfl
      exact h.voice.trans (Scope.voiceOf_cons_of_ne Kind.noConfusion).symm
    | sentence | paragraph =>
      exact h.note rfl (Scope.voiceOf_cons_of_ne (by decide)) (Scope.styleOf_cons_of_ne (by decide))
  | closing s =>
    obtain ⟨top, around, opened, same⟩ := inOrder
    have tail : Event.enter (Event.scopesAfter before) (.closing s) = around := by
      rw [Event.enter, opened, List.tail_cons]
    rw [opened, Scope.kinds_cons, List.nodup_cons, same] at once
    cases s with
    | voice v =>
      have voice : Scope.voiceOf around = none := Scope.voiceOf_of_notMem once.1
      have style : Scope.styleOf (top :: around) = Scope.styleOf around :=
        Scope.styleOf_cons_of_ne (by rw [same]; exact Kind.noConfusion)
      refine h.quiet rfl rfl rfl rfl ?_ ?_
      · rw [tail, voice]
        rfl
      · rw [tail, ← style, ← opened]
        exact h.style
    | style t =>
      have voice : Scope.voiceOf (top :: around) = Scope.voiceOf around :=
        Scope.voiceOf_cons_of_ne (by rw [same]; exact Kind.noConfusion)
      have style : Scope.styleOf around = {} := Scope.styleOf_of_notMem once.1
      refine h.quiet rfl rfl rfl rfl ?_ ?_
      · rw [tail, ← voice, ← opened]
        exact h.voice
      · rw [tail, style]
        rfl
    | sentence | paragraph =>
      refine h.note rfl ?_ ?_
      · rw [tail, opened, Scope.voiceOf_cons_of_ne (by rw [same]; exact Kind.noConfusion)]
      · rw [tail, opened, Scope.styleOf_cons_of_ne (by rw [same]; exact Kind.noConfusion)]

/-- Events that are balanced take a flattening along. -/
theorem At.foldl {es : List Event} (h : f.At before)
    (once : (Scope.kinds (Event.scopesAfter before)).Nodup)
    (balanced : Segment.checkEvents (Scope.kinds (Event.scopesAfter before)) es = .ok ()) :
    (es.foldl Flattening.step f).At (before ++ es) := by
  induction es generalizing f before with
  | nil =>
    rw [List.append_nil]
    exact h
  | cons e es ih =>
    obtain ⟨inOrder, rest⟩ := Segment.inOrder_of_checkEvents balanced
    have once' := inOrder.nodup once
    rw [← Event.scopesAfter_concat] at rest once'
    have here := ih (h.step inOrder once) once' rest
    rw [List.append_assoc, List.singleton_append] at here
    exact here

end Flattening

theorem Segment.runs_eq_joined {s : Segment} (balanced : s.checkBalanced = .ok ()) :
    s.runs = Run.joined (s.places.map Place.alone) := by
  have at' := Flattening.at_nil.foldl Scope.nodup_kinds_nil balanced
  rw [runs, at'.runs, List.nil_append]
  rfl

/-! ### Groups of places -/

namespace Run

/-- Whether a run says what a group of places says. -/
structure Covers (r : Run) (ps : List Place) : Prop where
  text : r.text = List.intercalate " " (ps.map Place.words)
  voice : ∀ p ∈ ps, p.voice = r.voice
  style : ∀ p ∈ ps, p.style = r.style
  boundary : ∃ p ∈ ps.head?, p.break? = r.boundary
  within : ∀ p ∈ ps.tail, p.break? = none

/-- Whether something separates two neighbouring runs. -/
def Apart (before after : Run) : Prop :=
  before.voice ≠ after.voice ∨ before.style ≠ after.style ∨ after.boundary ≠ none

theorem joins_eq_true_iff {before after : Run} : before.joins after = true ↔
    after.boundary = none ∧ before.voice = after.voice ∧ before.style = after.style := by
  rw [joins, decide_eq_true_iff]

theorem apart_iff {before after : Run} : before.Apart after ↔ before.joins after = false := by
  rw [← Bool.not_eq_true, joins_eq_true_iff, Apart]
  tauto

theorem covers_alone (p : Place) : p.alone.Covers [p] where
  text := (List.intercalate_singleton ..).symm
  voice := by simp [Place.alone]
  style := by simp [Place.alone]
  boundary := ⟨p, rfl, rfl⟩
  within := by simp

/-- A place that joins a run is said by it, in front. -/
theorem Covers.cons {p : Place} {r : Run} {ps : List Place} (covers : r.Covers ps)
    (joins : p.alone.joins r = true) :
    Covers { p.alone with text := p.words ++ " " ++ r.text } (p :: ps) := by
  obtain ⟨noBreak, voice, style⟩ := joins_eq_true_iff.1 joins
  obtain ⟨first, mem, same⟩ := covers.boundary
  cases ps with
  | nil => cases mem
  | cons q qs =>
    obtain rfl : q = first := Option.some.inj mem
    constructor
    · change p.words ++ " " ++ r.text = _
      rw [covers.text, List.map_cons, List.map_cons, List.map_cons, List.intercalate_cons_cons]
    · intro x mem
      rcases List.mem_cons.1 mem with rfl | mem
      · rfl
      · exact (covers.voice x mem).trans voice.symm
    · intro x mem
      rcases List.mem_cons.1 mem with rfl | mem
      · rfl
      · exact (covers.style x mem).trans style.symm
    · exact ⟨p, rfl, rfl⟩
    · intro x mem
      rcases List.mem_cons.1 mem with rfl | mem
      · exact same.trans noBreak
      · exact covers.within x mem

/-- Places that are joined fall into groups, one for each run, and neighbouring runs are
apart. -/
theorem exists_groups (ps : List Place) :
    ∃ groups : List (List Place), groups.flatten = ps ∧
      List.Forall₂ Covers (joined (ps.map Place.alone)) groups ∧
      (joined (ps.map Place.alone)).IsChain Apart := by
  induction ps with
  | nil => exact ⟨[], rfl, .nil, .nil⟩
  | cons p ps ih =>
    obtain ⟨groups, flat, covers, chain⟩ := ih
    rw [List.map_cons, joined]
    cases rest : joined (ps.map Place.alone) with
    | nil =>
      rw [rest] at covers
      cases covers
      obtain rfl : [] = ps := flat
      exact ⟨[[p]], rfl, .cons (covers_alone p) .nil, .singleton _⟩
    | cons next more =>
      rw [rest] at covers chain
      obtain ⟨g, gs, here, there, rfl⟩ := List.forall₂_cons_left_iff.1 covers
      rw [List.flatten_cons] at flat
      dsimp only
      split
      · next joins =>
        refine ⟨(p :: g) :: gs, ?_, .cons (here.cons joins) there, ?_⟩
        · rw [List.flatten_cons, List.cons_append, flat]
        · obtain ⟨-, voice, style⟩ := joins_eq_true_iff.1 joins
          cases more with
          | nil => exact .singleton _
          | cons r rs =>
            rw [List.isChain_cons_cons] at chain ⊢
            refine ⟨?_, chain.2⟩
            have apart := chain.1
            rw [Apart, ← voice, ← style] at apart
            exact apart
      · next apart =>
        refine ⟨[p] :: g :: gs, ?_, .cons (covers_alone p) (.cons here there), ?_⟩
        · rw [List.flatten_cons, List.flatten_cons, flat]
          rfl
        · rw [List.isChain_cons_cons]
          exact ⟨apart_iff.2 (Bool.eq_false_iff.2 apart), chain⟩

theorem Covers.ne_nil {r : Run} {ps : List Place} (covers : r.Covers ps) : ps ≠ [] := by
  rintro rfl
  obtain ⟨p, mem, -⟩ := covers.boundary
  cases mem

/-- Nothing separates neighbouring places of a run. -/
theorem Covers.isChain {r : Run} {ps : List Place} (covers : r.Covers ps) :
    ps.IsChain fun p q => p.joins q := by
  have joins {p q : Place} (memP : p ∈ ps) (memQ : q ∈ ps.tail) : p.joins q = true := by
    have mem := List.mem_of_mem_tail memQ
    exact joins_eq_true_iff.2 ⟨covers.within q memQ,
      (covers.voice p memP).trans (covers.voice q mem).symm,
      (covers.style p memP).trans (covers.style q mem).symm⟩
  clear covers
  induction ps with
  | nil => exact .nil
  | cons p ps ih =>
    cases ps with
    | nil => exact .singleton _
    | cons q qs =>
      refine List.isChain_cons_cons.2 ⟨joins List.mem_cons_self List.mem_cons_self, ih ?_⟩
      intro a b memA memB
      exact joins (List.mem_cons_of_mem _ memA) (List.mem_cons_of_mem _ memB)

/-- Runs that are apart cover groups that cannot be joined. -/
theorem isChain_groups {rs : List Run} {groups : List (List Place)}
    (covers : List.Forall₂ Covers rs groups) (chain : rs.IsChain Apart) :
    groups.IsChain fun g h => ∃ hg hh, (g.getLast hg).joins (h.head hh) = false := by
  induction covers with
  | nil => exact .nil
  | @cons r g rs groups here there ih =>
    cases there with
    | nil => exact .singleton _
    | @cons r' h rs groups next more =>
      obtain ⟨apart, rest⟩ := List.isChain_cons_cons.1 chain
      refine List.isChain_cons_cons.2 ⟨⟨here.ne_nil, next.ne_nil, ?_⟩, ih rest⟩
      obtain ⟨q, mem, boundary⟩ := next.boundary
      have first : h.head next.ne_nil = q :=
        Option.some.inj ((List.head?_eq_some_head next.ne_nil).symm.trans mem)
      have last := List.getLast_mem here.ne_nil
      have memQ : q ∈ h := first ▸ List.head_mem next.ne_nil
      refine apart_iff.1 ?_
      change _ ∨ _ ∨ _
      rw [first]
      change (g.getLast _).voice ≠ q.voice ∨ (g.getLast _).style ≠ q.style ∨ q.break? ≠ none
      rw [here.voice _ last, here.style _ last, next.voice q memQ, next.style q memQ, boundary]
      exact apart

/-- Groups that are covered by runs that are apart are those that joining makes. -/
theorem splitBy_flatten_eq {rs : List Run} {groups : List (List Place)}
    (covers : List.Forall₂ Covers rs groups) (chain : rs.IsChain Apart) :
    groups.flatten.splitBy Place.joins = groups := by
  have each : ∀ g ∈ groups, ∃ r, Covers r g := by
    clear chain
    induction covers with
    | nil => exact List.forall_mem_nil _
    | cons here _ ih => exact List.forall_mem_cons.2 ⟨⟨_, here⟩, ih⟩
  refine List.splitBy_flatten ?_ ?_ (isChain_groups covers chain)
  · intro mem
    obtain ⟨r, covers⟩ := each _ mem
    exact covers.ne_nil rfl
  · intro g mem
    obtain ⟨r, covers⟩ := each g mem
    exact covers.isChain

theorem intercalate_text {rs : List Run} {groups : List (List Place)}
    (covers : List.Forall₂ Covers rs groups) :
    List.intercalate " " (rs.map Run.text) =
      List.intercalate " " (groups.flatten.map Place.words) := by
  induction covers with
  | nil => rfl
  | @cons r g rs gs here there ih =>
    have nonempty {r : Run} {ps : List Place} (h : r.Covers ps) : ps.map Place.words ≠ [] := by
      rw [Ne, List.map_eq_nil_iff]
      exact h.ne_nil
    rw [List.map_cons, List.flatten_cons, List.map_append]
    cases there with
    | nil => rw [List.map_nil, List.intercalate_singleton, here.text, List.flatten_nil,
        List.map_nil, List.append_nil]
    | cons next more =>
      have later := nonempty next
      rw [List.intercalate_cons_of_ne_nil (by simp), ih, here.text,
        Words.intercalate_append (nonempty here) (by simp_all)]

/-- What the first run says begins with the first place. -/
theorem boundary_head {rs : List Run} {groups : List (List Place)}
    (covers : List.Forall₂ Covers rs groups) {r : Run} (mem : r ∈ rs.head?) :
    ∃ p ∈ groups.flatten.head?, p.break? = r.boundary := by
  cases covers with
  | nil => cases mem
  | @cons first g rs gs here there =>
    obtain rfl : first = r := Option.some.inj mem
    obtain ⟨p, head, same⟩ := here.boundary
    refine ⟨p, ?_, same⟩
    cases g with
    | nil => cases head
    | cons q qs => exact head

end Run

/-- What the runs of a segment are, by its groups of places. -/
theorem Segment.runs_eq_groups {s : Segment} (balanced : s.checkBalanced = .ok ()) :
    List.Forall₂ Run.Covers s.runs s.groups ∧ s.runs.IsChain Run.Apart := by
  obtain ⟨groups, flat, covers, chain⟩ := Run.exists_groups s.places
  rw [← runs_eq_joined balanced] at covers chain
  have same : s.groups = groups := by
    rw [Segment.groups, ← flat]
    exact Run.splitBy_flatten_eq covers chain
  exact ⟨same ▸ covers, chain⟩

/-- **A segment is flattened exactly.**  For a segment that is balanced:

1. the texts of its runs are its texts that are not blank, in order;
2. these have their places in groups, one group for each run, and every place of a group has the
   voice and the style of its run, which are those of the scopes around it;
3. neighbouring runs differ in voice or style, or the later one has a break;
4. the break of a run is that of the first place of its group, and the first run has none. -/
theorem Segment.runs_spec {s : Segment} (balanced : s.checkBalanced = .ok ()) :
    List.intercalate " " (s.runs.map Run.text) = List.intercalate " " s.spokenTexts ∧
      (s.places.map Place.words = s.spokenTexts ∧ s.groups.flatten = s.places ∧
        List.Forall₂ Run.Covers s.runs s.groups) ∧
      s.runs.IsChain Run.Apart ∧
      ∀ r ∈ s.runs.head?, r.boundary = none := by
  obtain ⟨covers, chain⟩ := runs_eq_groups balanced
  refine ⟨?_, ⟨s.map_words_places, s.flatten_groups, covers⟩, chain, ?_⟩
  · rw [Run.intercalate_text covers, flatten_groups, map_words_places]
  · intro r mem
    obtain ⟨p, head, same⟩ := Run.boundary_head covers mem
    rw [flatten_groups] at head
    rw [← same, s.break?_of_head head]

/-- A paragraph that ends, a blank text, and a voice inside a sentence. -/
def dialogue : Segment where
  events := [.opening .paragraph, .text "One", .text " ", .text "two.", .closing .paragraph,
    .opening .sentence, .text "", .opening (.voice (some ⟨"ann", ""⟩)), .text "Three.",
    .closing (.voice none), .closing .sentence]

/-- The segment is balanced, and its two runs cover its three texts that are not blank. -/
theorem runs_dialogue :
    dialogue.checkBalanced = .ok () ∧
      dialogue.runs = [⟨"One two.", none, {}, none⟩,
        ⟨"Three.", some ⟨"ann", ""⟩, {}, some .paragraph⟩] ∧
      dialogue.spokenTexts = ["One", "two.", "Three."] ∧
      dialogue.groups.flatten = dialogue.places ∧
      List.Forall₂ Run.Covers dialogue.runs dialogue.groups := by
  have balanced : dialogue.checkBalanced = .ok () := rfl
  obtain ⟨-, ⟨-, flat, covers⟩, -⟩ := Segment.runs_spec balanced
  refine ⟨balanced, ?_, ?_, flat, covers⟩
  · decide
  · decide

end Recital
