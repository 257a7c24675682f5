/-
# The break between two runs, by the instructions between them

Two neighbouring runs meet at the last text of one and the first text of the other, and
instructions stand between those that say the two (`Segment.Crossing`).  If none of them is
about sentences and paragraphs, one would expect no break there.  The break is decided by what
else they do:

| between the two | the sentence was begun | break |
| --- | --- | --- |
| a voice or a dial of the style | before the voice or style that is replaced | none |
| a voice or a dial of the style | inside it | sentence |

since replacing a scope closes and opens again what is inside.  `break_between_runs` says which
break it is in general, and `rate_splits_sentence` that it happens even where nothing changes.
-/

import Recital.Proofs.Draft.Change
import Recital.Proofs.Segment.Runs

namespace Recital

/-! ### Where runs meet -/

/-- Where run `i` of a segment meets the next one, in a prompt from instructions with the
segments `done` before. -/
structure Segment.Crossing (s : Segment) (done : List Segment) (xs : List Instruction)
    (i : Nat) where
  last : Place
  first : Place
  before : List Instruction
  sayingLast : Instruction
  between : List Instruction
  sayingFirst : Instruction
  after : List Instruction
  last_mem : last ∈ s.groups[i]?.bind List.getLast?
  first_mem : first ∈ s.groups[i + 1]?.bind List.head?
  instructions : xs = before ++ sayingLast :: (between ++ sayingFirst :: after)
  last_saidBy : last.SaidBy done before sayingLast
  first_saidBy : first.SaidBy done (before ++ sayingLast :: between) sayingFirst

/-- Neighbours in a list of groups are neighbours in the list of all. -/
theorem flatten_eq_of_neighbours {α : Type} {groups : List (List α)} {i : Nat} {a b : α}
    (last : a ∈ groups[i]?.bind List.getLast?) (first : b ∈ groups[i + 1]?.bind List.head?) :
    ∃ before after, groups.flatten = before ++ a :: b :: after := by
  induction groups generalizing i with
  | nil => cases last
  | cons g groups ih =>
    cases i with
    | succ i =>
      obtain ⟨before, after, same⟩ := ih last first
      exact ⟨g ++ before, after, by rw [List.flatten_cons, same, List.append_assoc]⟩
    | zero =>
      obtain ⟨front, rfl⟩ := List.getLast?_eq_some_iff.1 last
      cases groups with
      | nil => cases first
      | cons h groups =>
        obtain ⟨back, rfl⟩ := List.head?_eq_some_iff.1 first
        exact ⟨front, back ++ groups.flatten, by simp⟩

namespace Segment.Crossing

variable {s : Segment} {done : List Segment} {xs : List Instruction} {i : Nat}

theorem neighbours (c : s.Crossing done xs i) :
    ∃ ps qs, s.places = ps ++ c.last :: c.first :: qs := by
  rw [← s.flatten_groups]
  exact flatten_eq_of_neighbours c.last_mem c.first_mem

end Segment.Crossing

/-- Every run has its group of places. -/
theorem exists_group {rs : List Run} {groups : List (List Place)} {i : Nat} {r : Run}
    (covers : List.Forall₂ Run.Covers rs groups) (here : rs[i]? = some r) :
    ∃ g, groups[i]? = some g ∧ r.Covers g := by
  induction covers generalizing i with
  | nil => cases here
  | @cons head g _ _ head_covers _ ih =>
    cases i with
    | succ i => exact ih here
    | zero =>
      obtain rfl := Option.some.inj here
      exact ⟨g, rfl, head_covers⟩

/-- The break of a run is that of the place it begins with. -/
theorem boundary_of_group {rs : List Run} {groups : List (List Place)} {i : Nat} {r : Run}
    {p : Place} (covers : List.Forall₂ Run.Covers rs groups) (here : rs[i]? = some r)
    (first : p ∈ groups[i]?.bind List.head?) : r.boundary = p.break? := by
  obtain ⟨g, group, covers⟩ := exists_group covers here
  obtain ⟨q, mem, same⟩ := covers.boundary
  rw [group] at first
  obtain rfl : q = p := Option.some.inj (mem.symm.trans first)
  exact same.symm

/-! ### The break there -/

section Breaks

variable {chooser : Chooser} {xs : List Instruction} {segments done more : List Segment}
  {s : Segment} {i : Nat}

/-- What the break before a text is, if nothing about structure stands between its instruction
and that of the text before it. -/
theorem Segment.Crossing.break?_first (c : s.Crossing done xs i)
    (built : buildSegments chooser xs = .ok segments) (of : segments = done ++ s :: more)
    (plain : ∀ x ∈ c.between, x.isStructural = false) :
    c.first.break? = Break.strongest (reopened c.between c.last.scopes) := by
  obtain ⟨ps, qs, places⟩ := c.neighbours
  obtain ⟨silent, before, quiet, speaks⟩ := Segment.before_eq_of_neighbours places
  have memLast : c.last ∈ s.places := by simp [places]
  have memFirst : c.first ∈ s.places := by simp [places]
  obtain ⟨later, hereLast⟩ := Segment.events_eq_of_mem_places memLast
  obtain ⟨later', hereFirst⟩ := Segment.events_eq_of_mem_places memFirst
  have builtLast := built
  rw [c.instructions] at builtLast
  have builtFirst := builtLast
  rw [← List.cons_append, ← List.append_assoc] at builtFirst
  -- The drafts that the two instructions were followed on.
  obtain ⟨d, followed, complete, atHand⟩ := draft_of_saidBy builtLast of hereLast c.last_saidBy
  obtain ⟨d', followed', complete', atHand'⟩ :=
    draft_of_saidBy builtFirst of hereFirst c.first_saidBy
  obtain ⟨m, reached, rest⟩ := Draft.applyAll_append_eq_ok followed'
  obtain rfl : d = m := Except.ok.inj (followed.symm.trans reached)
  obtain ⟨e, step, run⟩ := Draft.applyAll_cons_eq_ok rest
  have sound : d.Sound := Draft.applyAll_eq_ok followed ▸ (Draft.sound_fresh chooser).applyEach _
  have soundAfter : e.Sound := Draft.eq_apply_of_outcome step ▸ sound.apply _
  obtain ⟨words, chooser', rfl⟩ := Draft.apply_of_speaks c.last_saidBy.speaks step
  have few : d'.segments.length ≤ d.applySchedule.segments.length := by
    have same := List.reverse_injective (complete'.trans complete.symm)
    exact same ▸ (Draft.grows_applySchedule d').suffix.length_le
  obtain ⟨idle, es, events, breaks⟩ := Draft.exists_events_of_plain soundAfter
    (Draft.applySchedule_scheduled d) ⟨words, List.mem_cons_self⟩ plain run few
  -- What was added after the first of them is what stands between the two texts.
  have same : silent = es := by
    rw [Draft.applySchedule_of_idle idle, events, List.reverse_append, List.reverse_reverse,
      Draft.say, List.reverse_cons, atHand, before, List.append_assoc,
      List.singleton_append] at atHand'
    exact (List.cons.inj (List.append_cancel_left atHand')).2.symm
  have scopes : c.last.scopes = d.applySchedule.scopes := by
    rw [Place.scopes, ← atHand]
    exact Event.scopesAfter_of_replay sound.applySchedule.traced
  rw [Place.break?, before, Event.breakAfter_of_silent speaks quiet, same, scopes]
  exact Break.strongest_congr breaks

/-- Runs meet somewhere. -/
theorem Segment.exists_crossing (built : buildSegments chooser xs = .ok segments)
    (of : segments = done ++ s :: more) {p q : Place}
    (last : p ∈ s.groups[i]?.bind List.getLast?) (first : q ∈ s.groups[i + 1]?.bind List.head?) :
    Nonempty (s.Crossing done xs i) := by
  obtain ⟨ps, qs, places⟩ := flatten_eq_of_neighbours last first
  rw [s.flatten_groups] at places
  obtain ⟨silent, place, -, -⟩ := Segment.before_eq_of_neighbours places
  have memLast : p ∈ s.places := by simp [places]
  have memFirst : q ∈ s.places := by simp [places]
  obtain ⟨later, hereLast⟩ := Segment.events_eq_of_mem_places memLast
  obtain ⟨later', hereFirst⟩ := Segment.events_eq_of_mem_places memFirst
  obtain ⟨before, x, rest, split, saidLast⟩ := exists_saidBy built of hereLast
  obtain ⟨before', y, after, split', saidFirst⟩ := exists_saidBy built of hereFirst
  have less : before.countP Instruction.speaks < before'.countP Instruction.speaks := by
    rw [saidLast.ordinal, saidFirst.ordinal, place, List.filterMap_append, List.length_append]
    exact Nat.add_lt_add_left (Nat.lt_add_of_pos_right (Nat.succ_pos _)) _
  obtain ⟨between, rfl⟩ := split_between (split.symm.trans split') less
  exact ⟨⟨p, q, before, x, between, y, after, last, first,
    by rw [split', List.append_assoc, List.cons_append], saidLast, saidFirst⟩⟩

/-- The pause between runs without a break. -/
theorem Run.pause_of_no_break {before after : Run} (none : after.boundary = none) :
    before.pause after = if before.voice = after.voice then 150 else 375 := by
  rw [Run.pause, none]
  split <;> rfl

/-- **The break between two runs, where no instruction about structure stands between them.**
There is one exactly if some scope of a voice or style that was replaced had a sentence or a
paragraph inside, and it is the strongest of these; without a break the pause is that of another
voice or of another style. -/
theorem break_between_runs (built : buildSegments chooser xs = .ok segments)
    (of : segments = done ++ s :: more) {before after : Run} (here : s.runs[i]? = some before)
    (next : s.runs[i + 1]? = some after) :
    Nonempty (s.Crossing done xs i) ∧
      ∀ c : s.Crossing done xs i, (∀ x ∈ c.between, x.isStructural = false) →
        after.boundary = Break.strongest (reopened c.between c.last.scopes) ∧
        (after.boundary = none ↔ reopened c.between c.last.scopes = []) ∧
        (after.boundary = none →
          before.pause after = if before.voice = after.voice then 150 else 375) := by
  have settled := settled_of_buildSegments built s (by rw [of]; simp)
  obtain ⟨covers, -⟩ := Segment.runs_eq_groups (Segment.checkBalanced_of_whole settled.whole)
  constructor
  · obtain ⟨g, memG, coversG⟩ := exists_group covers here
    obtain ⟨h, memH, coversH⟩ := exists_group covers next
    refine Segment.exists_crossing built of (p := g.getLast coversG.ne_nil)
      (q := h.head coversH.ne_nil) ?_ ?_
    · rw [memG]
      exact List.getLast?_eq_some_getLast coversG.ne_nil
    · rw [memH]
      exact List.head?_eq_some_head coversH.ne_nil
  · intro c plain
    have boundary : after.boundary = Break.strongest (reopened c.between c.last.scopes) :=
      (boundary_of_group covers next c.first_mem).trans (c.break?_first built of plain)
    refine ⟨boundary, ?_, Run.pause_of_no_break⟩
    rw [boundary]
    exact Break.strongest_eq_none_iff

end Breaks

/-! ### A rate inside a sentence, and a sentence inside a rate -/

/-- A sentence in which the rate is set. -/
def sentenceWithRate : List Instruction :=
  [.beginSentence, .text "One", .turn .rate 2, .text "two"]

/-- The segment of the sentence. -/
def rateInside : Segment where
  events := [.opening .sentence, .text "One", .opening (.style { rate := 2 }), .text "two",
    .closing (.style { rate := 2 }), .closing .sentence]

/-- Where its two runs meet. -/
def crossingRateInside : rateInside.Crossing [] sentenceWithRate 0 where
  last := ⟨[.opening .sentence], "One"⟩
  first := ⟨[.opening .sentence, .text "One", .opening (.style { rate := 2 })], "two"⟩
  before := [.beginSentence]
  sayingLast := .text "One"
  between := [.turn .rate 2]
  sayingFirst := .text "two"
  after := []
  last_mem := rfl
  first_mem := rfl
  instructions := rfl
  last_saidBy := ⟨rfl, rfl⟩
  first_saidBy := ⟨rfl, rfl⟩

/-- The sentence was begun first, so nothing is inside the style scope, and there is no break. -/
theorem no_break_at_rate_inside :
    buildSegments (.scripted [] 0) sentenceWithRate = .ok [rateInside] ∧
      ∃ before after, rateInside.runs = [before, after] ∧
        (∀ x ∈ crossingRateInside.between, x.isStructural = false) ∧
        after.boundary = none ∧ before.pause after = 150 := by
  have built : buildSegments (.scripted [] 0) sentenceWithRate = .ok ([] ++ [rateInside]) := rfl
  have plain : ∀ x ∈ crossingRateInside.between, x.isStructural = false := by decide
  refine ⟨built, ⟨"One", none, {}, none⟩, ⟨"two", none, { rate := 2 }, none⟩, rfl, plain, ?_⟩
  have only : [] ++ [rateInside] = [] ++ rateInside :: [] := rfl
  have here : rateInside.runs[0]? = some ⟨"One", none, {}, none⟩ := rfl
  have next : rateInside.runs[0 + 1]? = some ⟨"two", none, { rate := 2 }, none⟩ := rfl
  obtain ⟨-, meet⟩ := break_between_runs built only here next
  obtain ⟨-, noBreak, pause⟩ := meet crossingRateInside plain
  have none := noBreak.2 rfl
  exact ⟨none, pause none⟩

/-- A rate, and a sentence in which the same rate is set again. -/
def sentenceInRate : List Instruction :=
  [.turn .rate 1, .beginSentence, .text "One", .turn .rate 1, .text "two"]

/-- The segment of the sentence: the style scope was replaced, and the sentence with it. -/
def rateAround : Segment where
  events := [.opening (.style { rate := 1 }), .opening .sentence, .text "One", .closing .sentence,
    .closing (.style { rate := 1 }), .opening (.style { rate := 1 }), .opening .sentence,
    .text "two", .closing .sentence, .closing (.style { rate := 1 })]

/-- Where its two runs meet. -/
def crossingRateAround : rateAround.Crossing [] sentenceInRate 0 where
  last := ⟨rateAround.events.take 2, "One"⟩
  first := ⟨rateAround.events.take 7, "two"⟩
  before := [.turn .rate 1, .beginSentence]
  sayingLast := .text "One"
  between := [.turn .rate 1]
  sayingFirst := .text "two"
  after := []
  last_mem := rfl
  first_mem := rfl
  instructions := rfl
  last_saidBy := ⟨rfl, rfl⟩
  first_saidBy := ⟨rfl, rfl⟩

/-- Nothing changes between the two texts, in voice, style or structure, and yet the sentence is
split in two. -/
theorem rate_splits_sentence :
    buildSegments (.scripted [] 0) sentenceInRate = .ok [rateAround] ∧
      ∃ before after, rateAround.runs = [before, after] ∧
        (∀ x ∈ crossingRateAround.between, x.isStructural = false) ∧
        before.voice = after.voice ∧ before.style = after.style ∧
        after.boundary = some .sentence ∧ before.pause after = 375 := by
  refine ⟨rfl, ⟨"One", none, { rate := 1 }, none⟩, ⟨"two", none, { rate := 1 }, some .sentence⟩,
    rfl, ?_, rfl, rfl, rfl, rfl⟩
  decide

end Recital
