/-
# Which instruction says a text

An instruction speaks if it stands for a text, and every such instruction adds one text to the
prompt.  So a text and the instruction that says it have the same number: as many texts stand
before the one, in its segment and in earlier segments, as instructions that speak before the
other (`Place.SaidBy`).

Every place has its instruction (`exists_saidBy`).  The draft that this was followed on, with
the scheduled volume brought about, has the earlier segments complete, and at hand the events
before the place (`draft_of_saidBy`).
-/

import Recital.Proofs.Draft.Growth
import Recital.Proofs.Segment.Place

namespace Recital

/-! ### Splits of a list -/

section Splits

variable {α β : Type}

/-- A part of an element of a list is found by the number of parts before it. -/
theorem split_unique (parts : α → List β) {a a' b b' : List α} {x x' : α} {i i' : Nat}
    (same : a ++ x :: b = a' ++ x' :: b') (lt : i < (parts x).length)
    (lt' : i' < (parts x').length)
    (total : (a.flatMap parts).length + i = (a'.flatMap parts).length + i') :
    a = a' ∧ x = x' ∧ i = i' := by
  induction a generalizing a' with
  | nil =>
    cases a' with
    | nil =>
      obtain ⟨rfl, -⟩ := List.cons.inj same
      simp only [List.flatMap_nil, List.length_nil] at total
      exact ⟨rfl, rfl, by omega⟩
    | cons y a' =>
      obtain ⟨rfl, -⟩ := List.cons.inj same
      simp only [List.flatMap_nil, List.length_nil, List.flatMap_cons, List.length_append] at total
      omega
  | cons z a ih =>
    cases a' with
    | nil =>
      obtain ⟨rfl, -⟩ := List.cons.inj same
      simp only [List.flatMap_nil, List.length_nil, List.flatMap_cons, List.length_append] at total
      omega
    | cons y a' =>
      obtain ⟨rfl, rest⟩ := List.cons.inj same
      simp only [List.flatMap_cons, List.length_append] at total
      obtain ⟨rfl, here, offset⟩ := ih rest (by omega)
      exact ⟨rfl, here, offset⟩

theorem exists_split_of_lt_countP {p : α → Bool} {xs : List α} {k : Nat} (h : k < xs.countP p) :
    ∃ before x after, xs = before ++ x :: after ∧ p x ∧ before.countP p = k := by
  induction xs generalizing k with
  | nil => exact absurd h (Nat.not_lt_zero k)
  | cons x xs ih =>
    rw [List.countP_cons] at h
    cases here : p x with
    | false =>
      rw [if_neg (by simp [here])] at h
      obtain ⟨before, y, after, rfl, speaks, count⟩ := ih h
      exact ⟨x :: before, y, after, rfl, speaks, by rw [List.countP_cons, count, here]; rfl⟩
    | true =>
      rw [if_pos here] at h
      cases k with
      | zero => exact ⟨[], x, xs, rfl, here, rfl⟩
      | succ k =>
        obtain ⟨before, y, after, rfl, speaks, count⟩ := ih (Nat.lt_of_succ_lt_succ h)
        exact ⟨x :: before, y, after, rfl, speaks, by rw [List.countP_cons, count, here]; rfl⟩

/-- Of two elements, the one with more that count before it comes later. -/
theorem split_between {p : α → Bool} {before after before' after' : List α} {x y : α}
    (same : before ++ x :: after = before' ++ y :: after')
    (less : before.countP p < before'.countP p) : ∃ mid, before' = before ++ x :: mid := by
  rcases List.append_eq_append_iff.1 same with ⟨mid, longer, rest⟩ | ⟨mid, shorter, -⟩
  · cases mid with
    | nil =>
      rw [List.append_nil] at longer
      rw [longer] at less
      exact absurd less (Nat.lt_irrefl _)
    | cons z mid =>
      obtain rfl : x = z := (List.cons.inj rest).1
      exact ⟨mid, longer⟩
  · rw [shorter, List.countP_append] at less
    omega

end Splits

/-! ### Texts and instructions -/

/-- Whether an instruction stands for a text. -/
def Instruction.speaks : Instruction → Bool
  | .text _ | .template _ => true
  | _ => false

/-- Whether an instruction says the text of a place: as many texts are said before the place, in
the segments `done` and in its own, as instructions that speak stand before the instruction. -/
structure Place.SaidBy (p : Place) (done : List Segment) (before : List Instruction)
    (x : Instruction) : Prop where
  speaks : x.speaks
  ordinal : before.countP Instruction.speaks =
    (done.flatMap Segment.texts).length + (p.before.filterMap Event.words?).length

/-- The texts that are said in passages. -/
def textsSaid (passages : List Passage) : List Words := passages.filterMap fun p => p.words

theorem textsSaid_append (ps qs : List Passage) :
    textsSaid (ps ++ qs) = textsSaid ps ++ textsSaid qs :=
  List.filterMap_append

theorem textsSaid_textsUnder (volume : Int) (scopes : List Scope) (es : List Event) :
    textsSaid ((Event.textsUnder scopes es).map (Passage.ofText volume)) =
      es.filterMap Event.words? := by
  induction es generalizing scopes with
  | nil => rfl
  | cons e es ih =>
    cases e with
    | opening s => exact ih _
    | text words => exact congrArg (words :: ·) (ih scopes)
    | closing s => exact ih _

theorem Segment.textsSaid_passages (s : Segment) : textsSaid s.passages = s.texts := by
  rw [passages, textsSaid_append, textsSaid_textsUnder]
  cases s.interactive <;> exact List.append_nil _

theorem textsSaid_flatMap (segments : List Segment) :
    textsSaid (segments.flatMap Segment.passages) = segments.flatMap Segment.texts := by
  induction segments with
  | nil => rfl
  | cons s segments ih =>
    rw [List.flatMap_cons, List.flatMap_cons, textsSaid_append, ih, s.textsSaid_passages]

theorem Draft.textsSaid_passages (d : Draft) :
    textsSaid d.passages =
      d.segments.reverse.flatMap Segment.texts ++ d.events.reverse.filterMap Event.words? := by
  rw [passages, textsSaid_append, textsSaid_flatMap, textsSaid_textsUnder]

namespace Reader

variable {r next last : Reader} {x : Instruction} {xs : List Instruction} {said : List Passage}

/-- An instruction says one text if it speaks, and none otherwise. -/
theorem length_textsSaid_step (step : r.step x = .ok (said, next)) :
    (textsSaid said).length = if x.speaks then 1 else 0 := by
  cases x with
  | template document =>
    obtain ⟨words, chooser, -, rfl, -⟩ := step_template_eq_ok step
    rfl
  | endSentence | endParagraph =>
    obtain ⟨rfl, -⟩ := finish_eq_ok step
    rfl
  | loop rounds => cases step
  | foreign what => cases step
  | _ =>
    cases step
    rfl

theorem length_textsSaid_read (read : r.read xs = .ok (said, last)) :
    (textsSaid said).length = xs.countP Instruction.speaks := by
  induction xs generalizing r said with
  | nil =>
    cases read
    rfl
  | cons x xs ih =>
    obtain ⟨here, next, rest, step, later, rfl⟩ := read_cons_eq_ok read
    rw [textsSaid_append, List.length_append, length_textsSaid_step step, ih later,
      List.countP_cons, Nat.add_comm]

end Reader

namespace Draft

variable {d e : Draft} {x : Instruction} {xs ys : List Instruction} {chooser : Chooser}

theorem applyAll_append (d : Draft) (xs ys : List Instruction) :
    d.applyAll (xs ++ ys) = (d.applyAll xs).bind fun d => d.applyAll ys := by
  induction xs generalizing d with
  | nil => rfl
  | cons x xs ih =>
    rw [List.cons_append, applyAll_cons, applyAll_cons]
    cases outcome (d.apply x) with
    | error error => rfl
    | ok next => exact ih next

/-- A list is followed up to some place, and from there. -/
theorem applyAll_append_eq_ok (h : d.applyAll (xs ++ ys) = .ok e) :
    ∃ m, d.applyAll xs = .ok m ∧ m.applyAll ys = .ok e := by
  rw [applyAll_append] at h
  exact Except.bind_eq_ok.1 h

theorem applyAll_cons_eq_ok (h : d.applyAll (x :: xs) = .ok e) :
    ∃ m, outcome (d.apply x) = .ok m ∧ m.applyAll xs = .ok e := by
  rw [applyAll_cons] at h
  exact Except.bind_eq_ok.1 h

theorem eq_apply_of_outcome (h : outcome (d.apply x) = .ok e) : e = (d.apply x).1 := by
  revert h
  rcases d.apply x with ⟨after, _ | error⟩
  · exact fun h => (Except.ok.inj h).symm
  · exact fun h => nomatch h

/-- A draft has as many texts as it has followed instructions that speak. -/
theorem length_textsSaid (run : applyAll { chooser := chooser } xs = .ok d) :
    (textsSaid d.passages).length = xs.countP Instruction.speaks := by
  obtain ⟨r, read, -⟩ := exists_follows run
  exact Reader.length_textsSaid_read read

/-- An instruction that speaks adds a text, once the scheduled volume is brought about. -/
theorem apply_of_speaks (speaks : x.speaks) (h : outcome (d.apply x) = .ok e) :
    ∃ words chooser, e = Draft.say { d.applySchedule with chooser := chooser } words := by
  cases x with
  | text words =>
    cases h
    exact ⟨words, d.applySchedule.chooser, rfl⟩
  | template document =>
    change outcome (d.applySchedule.sayTemplate document) = .ok e at h
    rw [sayTemplate] at h
    split at h
    next result chooser _ =>
      cases result with
      | ok words =>
        cases h
        exact ⟨words, chooser, rfl⟩
      | error fault => cases h
  | _ => cases speaks

end Draft

/-! ### The origin of a place -/

section Origin

variable {chooser : Chooser} {xs : List Instruction} {segments done more : List Segment}
  {s : Segment}

/-- A prompt has as many texts as instructions that speak. -/
theorem length_texts_of_buildSegments (built : buildSegments chooser xs = .ok segments) :
    (segments.flatMap Segment.texts).length = xs.countP Instruction.speaks := by
  obtain ⟨last, read⟩ := read_of_buildSegments built
  rw [← textsSaid_flatMap]
  exact Reader.length_textsSaid_read read

/-- A text is one more than those before it. -/
theorem Segment.length_texts_lt {pre post : List Event} {words : Words}
    (h : s.events = pre ++ .text words :: post) :
    (pre.filterMap Event.words?).length < s.texts.length := by
  rw [Segment.texts, h, List.filterMap_append, List.length_append]
  exact Nat.lt_add_of_pos_right (Nat.succ_pos _)

/-- A text of a prompt is found by the number of texts before it. -/
theorem place_unique {done' more' : List Segment} {s' : Segment} {pre post pre' post' : List Event}
    {words words' : Words} (segments : done ++ s :: more = done' ++ s' :: more')
    (here : s.events = pre ++ .text words :: post)
    (here' : s'.events = pre' ++ .text words' :: post')
    (count : (done.flatMap Segment.texts).length + (pre.filterMap Event.words?).length =
      (done'.flatMap Segment.texts).length + (pre'.filterMap Event.words?).length) :
    done = done' ∧ s = s' ∧ pre = pre' := by
  obtain ⟨rfl, rfl, offset⟩ := split_unique Segment.texts segments
    (Segment.length_texts_lt here) (Segment.length_texts_lt here') count
  rw [List.filterMap_eq_flatMap_toList, List.filterMap_eq_flatMap_toList] at offset
  obtain ⟨rfl, -, -⟩ := split_unique (fun e : Event => e.words?.toList)
    (here.symm.trans here') (Nat.succ_pos 0) (Nat.succ_pos 0) (congrArg (· + 0) offset)
  exact ⟨rfl, rfl, rfl⟩

/-- What an instruction says stands in one of the segments, behind what its draft has at hand. -/
theorem exists_text_of_speaks {before after : List Instruction} {x : Instruction}
    (built : buildSegments chooser (before ++ x :: after) = .ok segments) (speaks : x.speaks) :
    ∃ d s more words post, Draft.applyAll { chooser := chooser } before = .ok d ∧
      segments = d.applySchedule.segments.reverse ++ s :: more ∧
      s.events = d.applySchedule.events.reverse ++ .text words :: post := by
  obtain ⟨last, run, rfl⟩ := buildSegments_eq_ok built
  obtain ⟨d, followed, rest⟩ := Draft.applyAll_append_eq_ok run
  obtain ⟨e, here, later⟩ := Draft.applyAll_cons_eq_ok rest
  obtain ⟨words, chooser', said⟩ := Draft.apply_of_speaks speaks here
  have events : e.events = .text words :: d.applySchedule.events := by rw [said]; rfl
  have segments : e.segments = d.applySchedule.segments := by rw [said]; rfl
  have hasText : e.HasText := ⟨words, by rw [events]; exact List.mem_cons_self⟩
  have grown : e.Grows last := Draft.applyAll_eq_ok later ▸ Draft.grows_applyEach e after
  obtain ⟨s, more, finished, post, starts⟩ := grown.finish hasText
  refine ⟨d, s, more, words, post, followed, segments ▸ finished, ?_⟩
  rw [← starts, events, List.reverse_cons, List.append_assoc, List.singleton_append]

/-- The draft that the instruction of a place was followed on has at hand what stands before the
place. -/
theorem draft_of_saidBy {before after : List Instruction} {x : Instruction} {p : Place}
    {later : List Event} (built : buildSegments chooser (before ++ x :: after) = .ok segments)
    (of : segments = done ++ s :: more) (here : s.events = p.before ++ .text p.words :: later)
    (said : p.SaidBy done before x) :
    ∃ d, Draft.applyAll { chooser := chooser } before = .ok d ∧
      d.applySchedule.segments.reverse = done ∧ d.applySchedule.events.reverse = p.before := by
  obtain ⟨d, s', more', words, post, followed, split, stands⟩ :=
    exists_text_of_speaks built said.speaks
  have sound : d.Sound := Draft.applyAll_eq_ok followed ▸ (Draft.sound_fresh chooser).applyEach _
  have count := Draft.length_textsSaid followed
  rw [← Draft.passages_applySchedule sound, Draft.textsSaid_passages, List.length_append,
    said.ordinal] at count
  obtain ⟨segments, -, events⟩ := place_unique (split.symm.trans of) stands here count
  exact ⟨d, followed, segments, events⟩

/-- **Every text of a prompt has its instruction,** found by its number. -/
theorem exists_saidBy (built : buildSegments chooser xs = .ok segments)
    (of : segments = done ++ s :: more) {p : Place} {later : List Event}
    (here : s.events = p.before ++ .text p.words :: later) :
    ∃ before x after, xs = before ++ x :: after ∧ p.SaidBy done before x := by
  have few : (done.flatMap Segment.texts).length + (p.before.filterMap Event.words?).length <
      xs.countP Instruction.speaks := by
    have inside := Segment.length_texts_lt here
    rw [← length_texts_of_buildSegments built, of, List.flatMap_append, List.flatMap_cons,
      List.length_append, List.length_append]
    omega
  obtain ⟨before, x, after, split, speaks, ordinal⟩ := exists_split_of_lt_countP few
  exact ⟨before, x, after, split, speaks, ordinal⟩

end Origin
end Recital
