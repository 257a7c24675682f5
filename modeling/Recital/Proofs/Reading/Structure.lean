/-
# Structure apart from settings

Sentences and paragraphs make an automaton of their own.  Its stack holds structural kinds
only, innermost first, and of everything else it has to know the volume in force:

| instruction | stack after it |
| --- | --- |
| begin `k` | `k` closed if it is open, then `k` |
| end `k` | `k` closed; fails if it is not open |
| reset, interactive | empty |
| output volume `v` | empty, unless `v` is in force already |
| anything else | the same |

Closing `k` takes off `k` and all that is above it.  `nestings_of_buildSegments` says that
building fails where the automaton fails, at the same instruction, and that the structural
scopes around a text are the automaton's stack at that text.  Voices and the dials of the
style are not in the table, so inserting or deleting them changes nothing of this, although
in a draft they share the stack with sentences and paragraphs and bring scheduled volumes
about.
-/

import Recital.Proofs.Reading.Lookback

namespace Recital
namespace Instruction

/-- Whether an instruction says itself what it does: it is no loop, which stands for
others, no template, which stands for a text, and nothing foreign. -/
def isDirect : Instruction → Bool
  | .template _ | .loop _ | .foreign _ => false
  | _ => true

/-- Whether an instruction sets the voice or a field of the style. -/
def isVoicing : Instruction → Bool
  | .voice _ | .turn .rate _ | .turn .emphasis _ | .turn .voiceVolume _ => true
  | _ => false

/-- Whether an instruction is a text. -/
def isText : Instruction → Bool
  | .text _ => true
  | _ => false

/-- The automaton: what an instruction after `past` makes of a stack of structural kinds.
It fails with the kind that it ends where that is not open. -/
def nest (past : List Instruction) (nesting : List Kind) : Instruction → Except Kind (List Kind)
  | .beginSentence => .ok (.sentence :: Kind.sentence.close nesting)
  | .beginParagraph => .ok (.paragraph :: Kind.paragraph.close nesting)
  | .endSentence =>
    if .sentence ∈ nesting then .ok (Kind.sentence.close nesting) else .error .sentence
  | .endParagraph =>
    if .paragraph ∈ nesting then .ok (Kind.paragraph.close nesting) else .error .paragraph
  | .reset | .interactive => .ok []
  | .turn .outputVolume level => .ok (if level.val = volumeAfter past then nesting else [])
  | _ => .ok nesting

end Instruction

/-- The automaton over a list of instructions after `past`: the stack at each text,
outermost first, and the stack at the end. -/
def nestAll (past : List Instruction) (nesting : List Kind) :
    List Instruction → Except Kind (List (List Kind) × List Kind)
  | [] => .ok ([], nesting)
  | x :: xs => do
    let next ← x.nest past nesting
    let (around, last) ← nestAll (x :: past) next xs
    return ((if x.isText then [nesting.reverse] else []) ++ around, last)

/-- The kinds of the structural scopes around each text of a segment, outermost first. -/
def Segment.nestings (s : Segment) : List (List Kind) :=
  (Event.textsUnder [] s.events).map fun text => (Scope.nesting text.2).reverse

/-- A passage without the voice and the style it is spoken with. -/
structure Placement where
  words : Option Words
  volume : Int
  nesting : List Kind
  deriving DecidableEq

/-- Where a passage stands. -/
def Passage.placement (p : Passage) : Placement := ⟨p.words, p.volume, p.nesting⟩

/-- Where the passages of a segment stand. -/
def Segment.placements (s : Segment) : List Placement := s.passages.map Passage.placement

/-- The nestings of the passages that are texts. -/
def textNestings (passages : List Passage) : List (List Kind) :=
  passages.filterMap fun p => p.words.map fun _ => p.nesting

theorem textNestings_append (ps qs : List Passage) :
    textNestings (ps ++ qs) = textNestings ps ++ textNestings qs :=
  List.filterMap_append

theorem Segment.nestings_eq (s : Segment) : s.nestings = textNestings s.passages := by
  have live : textNestings (s.interactive.toList.map (Passage.ofContext s.volume)) = [] := by
    cases s.interactive <;> rfl
  have texts : ∀ texts : List (Words × List Scope),
      textNestings (texts.map (Passage.ofText s.volume)) =
        texts.map fun text => (Scope.nesting text.2).reverse := by
    intro texts
    rw [textNestings, List.filterMap_map]
    exact congrFun List.filterMap_eq_map texts
  rw [passages, textNestings_append, live, texts, List.append_nil, nestings]

theorem flatMap_nestings (segments : List Segment) :
    segments.flatMap Segment.nestings = textNestings (segments.flatMap Segment.passages) := by
  induction segments with
  | nil => rfl
  | cons s segments ih =>
    rw [List.flatMap_cons, List.flatMap_cons, ih, Segment.nestings_eq, textNestings_append]

namespace Reader

variable {r s next : Reader} {past : List Instruction} {x : Instruction}

/-- **The automaton keeps up with a reader** over one instruction. -/
theorem Recalls.nest (h : r.Recalls past) (direct : x.isDirect) :
    (r.step x).map (fun read => (textNestings read.1, read.2.nesting)) =
      ((x.nest past r.nesting).map fun next =>
        (if x.isText then [r.nesting.reverse] else [], next)).mapError Error.unmatchedEnd := by
  have ended : ∀ kind, (r.finish kind).map (fun read => (textNestings read.1, read.2.nesting)) =
      ((if kind ∈ r.nesting then Except.ok (kind.close r.nesting) else .error kind).map fun next =>
        (([] : List (List Kind)), next)).mapError Error.unmatchedEnd := by
    intro kind
    rw [Reader.finish]
    split <;> rfl
  cases x with
  | turn dial level =>
    cases dial with
    | outputVolume =>
      rw [Instruction.nest, ← h.volume]
      rfl
    | _ => rfl
  | endSentence => exact ended .sentence
  | endParagraph => exact ended .paragraph
  | template document => cases direct
  | loop rounds => cases direct
  | foreign what => cases direct
  | _ => rfl

/-- A reader fails on an instruction exactly where the automaton does. -/
theorem Recalls.fails_iff (h : r.Recalls past) (direct : x.isDirect) (error : Error) :
    r.step x = .error error ↔
      ∃ kind, error = .unmatchedEnd kind ∧ x.nest past r.nesting = .error kind := by
  have nested := h.nest direct
  revert nested
  rcases r.step x with failure | result <;> rcases x.nest past r.nesting with kind | nesting
  · intro nested
    obtain rfl : failure = .unmatchedEnd kind := Except.error.inj nested
    simp [eq_comm]
  · rintro ⟨⟩
  · rintro ⟨⟩
  · simp

/-- **The automaton keeps up with a reader** over a list. -/
theorem Recalls.nestAll {xs : List Instruction} (h : r.Recalls past)
    (direct : ∀ x ∈ xs, x.isDirect) :
    (r.read xs).map (fun read => (textNestings read.1, read.2.nesting)) =
      (nestAll past r.nesting xs).mapError Error.unmatchedEnd := by
  induction xs generalizing r past with
  | nil => rfl
  | cons x xs ih =>
    have here := h.nest (direct x List.mem_cons_self)
    rw [Recital.nestAll]
    cases step : r.step x with
    | error error =>
      rw [step] at here
      rw [read_cons_error step]
      cases nested : x.nest past r.nesting with
      | error kind =>
        rw [nested] at here
        exact congrArg _ (Except.error.inj here)
      | ok nesting =>
        rw [nested] at here
        cases here
    | ok result =>
      obtain ⟨said, next⟩ := result
      rw [step] at here
      rw [read_cons_ok step]
      cases nested : x.nest past r.nesting with
      | error kind =>
        rw [nested] at here
        cases here
      | ok nesting =>
        rw [nested] at here
        obtain ⟨around, rfl⟩ := Prod.mk.inj (Except.ok.inj here)
        have rest := ih (h.step step) fun y mem => direct y (List.mem_cons_of_mem _ mem)
        change _ = Except.mapError _ (Recital.nestAll (x :: past) next.nesting xs >>= _)
        revert rest
        cases next.read xs <;> cases Recital.nestAll (x :: past) next.nesting xs
        · rintro ⟨⟩
          rfl
        · rintro ⟨⟩
        · rintro ⟨⟩
        · intro rest
          obtain ⟨more, last⟩ := Prod.mk.inj (Except.ok.inj rest)
          refine congrArg Except.ok (Prod.ext ?_ last)
          rw [← more, ← around]
          exact textNestings_append said _

/-- A reader fails at the same place of a list as the automaton. -/
theorem Recalls.fails_after_iff {xs : List Instruction} (h : r.Recalls past)
    (direct : ∀ y ∈ xs, y.isDirect) (here : x.isDirect) (error : Error) :
    (∃ said next, r.read xs = .ok (said, next) ∧ next.step x = .error error) ↔
      ∃ kind around nesting, error = .unmatchedEnd kind ∧
        Recital.nestAll past r.nesting xs = .ok (around, nesting) ∧
        x.nest (xs.reverse ++ past) nesting = .error kind := by
  have nested := h.nestAll direct
  have later : ∀ {said next}, r.read xs = .ok (said, next) →
      next.Recalls (xs.reverse ++ past) := h.run
  revert nested later
  rcases r.read xs with failure | ⟨said, next⟩ <;>
    rcases Recital.nestAll past r.nesting xs with kind | ⟨around, nesting⟩
  · simp
  · rintro ⟨⟩
  · rintro ⟨⟩
  · intro nested later
    obtain ⟨_, rfl⟩ := Prod.mk.inj (Except.ok.inj nested)
    simp [(later rfl).fails_iff here]

/-- Two readers who differ in nothing but the voice and the style. -/
structure Alike (r s : Reader) : Prop where
  volume : r.volume = s.volume
  nesting : r.nesting = s.nesting
  chooser : r.chooser = s.chooser

/-- The places of what is read. -/
def placed (read : Except Error (List Passage × Reader)) : Except Error (List Placement) :=
  read.map fun read => read.1.map Passage.placement

/-- A voice or a dial of the style is read in silence and makes no other difference. -/
theorem Alike.step_voicing (h : r.Alike s) (voicing : x.isVoicing) :
    ∃ next, r.step x = .ok ([], next) ∧ next.Alike s := by
  cases x with
  | voice voice => exact ⟨_, rfl, h.volume, h.nesting, h.chooser⟩
  | turn dial level =>
    cases dial with
    | outputVolume => cases voicing
    | _ => exact ⟨_, rfl, h.volume, h.nesting, h.chooser⟩
  | _ => cases voicing

/-- Any other instruction fails for both with the same error, or is read at the same place
by both. -/
theorem Alike.step (h : r.Alike s) (other : x.isVoicing = false) :
    (∃ error, r.step x = .error error ∧ s.step x = .error error) ∨
      ∃ said next said' next', r.step x = .ok (said, next) ∧ s.step x = .ok (said', next') ∧
        said.map Passage.placement = said'.map Passage.placement ∧ next.Alike next' := by
  obtain ⟨rVoice, rStyle, volume, nesting, chooser⟩ := r
  obtain ⟨sVoice, sStyle, _, _, _⟩ := s
  obtain ⟨rfl, rfl, rfl⟩ := h
  cases x with
  | template document =>
    simp only [Reader.step]
    rcases (Template.expandDocument document Template.start).run chooser with ⟨fault | words, drawn⟩
    · exact .inl ⟨_, rfl, rfl⟩
    · exact .inr ⟨_, _, _, _, rfl, rfl, rfl, rfl, rfl, rfl⟩
  | endSentence =>
    simp only [Reader.step, Reader.finish]
    split
    · exact .inr ⟨_, _, _, _, rfl, rfl, rfl, rfl, rfl, rfl⟩
    · exact .inl ⟨_, rfl, rfl⟩
  | endParagraph =>
    simp only [Reader.step, Reader.finish]
    split
    · exact .inr ⟨_, _, _, _, rfl, rfl, rfl, rfl, rfl, rfl⟩
    · exact .inl ⟨_, rfl, rfl⟩
  | voice voice => cases other
  | turn dial level =>
    cases dial with
    | outputVolume => exact .inr ⟨_, _, _, _, rfl, rfl, rfl, rfl, rfl, rfl⟩
    | _ => cases other
  | loop rounds => exact .inl ⟨_, rfl, rfl⟩
  | foreign what => exact .inl ⟨_, rfl, rfl⟩
  | _ => exact .inr ⟨_, _, _, _, rfl, rfl, rfl, rfl, rfl, rfl⟩

theorem placed_cons (said : List Passage) (read : Except Error (List Passage × Reader)) :
    placed (read.map fun (more, r) => (said ++ more, r)) =
      (placed read).map (said.map Passage.placement ++ ·) := by
  cases read with
  | error error => rfl
  | ok read => exact congrArg Except.ok List.map_append

/-- **Where passages stand does not depend on voices and styles:** leaving out what sets
them changes nothing. -/
theorem Alike.read (h : r.Alike s) (xs : List Instruction) :
    placed (r.read xs) = placed (s.read (xs.filter fun x => !x.isVoicing)) := by
  induction xs generalizing r s with
  | nil => rfl
  | cons x xs ih =>
    cases voicing : x.isVoicing with
    | true =>
      obtain ⟨next, step, alike⟩ := h.step_voicing voicing
      rw [List.filter_cons_of_neg (by simp [voicing]), read_cons_ok step, placed_cons, ← ih alike]
      cases placed (next.read xs) <;> rfl
    | false =>
      rw [List.filter_cons_of_pos (by simp [voicing])]
      rcases h.step voicing with ⟨error, step, step'⟩ | ⟨said, next, said', next', step, step',
        same, alike⟩
      · rw [read_cons_error step, read_cons_error step']
      · rw [read_cons_ok step, read_cons_ok step', placed_cons, placed_cons, same, ih alike]

end Reader

/-- Where the passages of built segments stand is decided without voices and styles. -/
theorem placements_of_buildSegments (chooser : Chooser) (xs : List Instruction) :
    (buildSegments chooser xs).map (List.flatMap Segment.placements) =
      Reader.placed
        (Reader.read { chooser := chooser } (xs.filter fun x => !x.isVoicing)) := by
  have flat : ∀ segments : List Segment, segments.flatMap Segment.placements =
      (segments.flatMap Segment.passages).map Passage.placement := by
    intro segments
    rw [List.map_flatMap]
    rfl
  have alike : Reader.Alike { chooser := chooser } { chooser := chooser } := ⟨rfl, rfl, rfl⟩
  calc (buildSegments chooser xs).map (List.flatMap Segment.placements)
      = ((buildSegments chooser xs).map (List.flatMap Segment.passages)).map
          (List.map Passage.placement) := by
        cases buildSegments chooser xs with
        | error error => rfl
        | ok segments => exact congrArg Except.ok (flat segments)
    _ = Reader.placed (Reader.read { chooser := chooser } xs) := by
        rw [passages_of_buildSegments]
        cases Reader.read { chooser := chooser } xs <;> rfl
    _ = _ := alike.read xs

/-- **The structure of a prompt.**  Building fails on an instruction exactly where the
automaton fails on it, and then because it ends what is not open; otherwise the structural
scopes around each text are the automaton's stack there; and lists that differ in voices
and dials of the style only are both refused, or have all their passages at the same
places. -/
theorem nestings_of_buildSegments (chooser : Chooser) {xs : List Instruction}
    (direct : ∀ x ∈ xs, x.isDirect) :
    (∀ before x after error, xs = before ++ x :: after →
      ((∃ d, Draft.applyAll { chooser := chooser } before = .ok d ∧
          (d.apply x).2 = some error) ↔
        ∃ kind around nesting, error = .unmatchedEnd kind ∧
          nestAll [] [] before = .ok (around, nesting) ∧
          x.nest before.reverse nesting = .error kind)) ∧
    (buildSegments chooser xs).map (List.flatMap Segment.nestings) =
      ((nestAll [] [] xs).map Prod.fst).mapError Error.unmatchedEnd ∧
    ∀ ys : List Instruction,
      ys.filter (fun x => !x.isVoicing) = xs.filter (fun x => !x.isVoicing) →
      (buildSegments chooser ys).map (List.flatMap Segment.placements) =
        (buildSegments chooser xs).map (List.flatMap Segment.placements) := by
  have recalls := Reader.recalls_fresh chooser
  refine ⟨?_, ?_, ?_⟩
  · rintro before x after error rfl
    have directBefore : ∀ y ∈ before, y.isDirect := fun y mem =>
      direct y (List.mem_append_left _ mem)
    have directHere : x.isDirect := direct x (by simp)
    rw [(Draft.follows_fresh chooser).fails_after_iff,
      recalls.fails_after_iff directBefore directHere, List.append_nil]
  · have passages := passages_of_buildSegments chooser xs
    have nested := recalls.nestAll direct
    calc (buildSegments chooser xs).map (List.flatMap Segment.nestings)
        = ((buildSegments chooser xs).map (List.flatMap Segment.passages)).map textNestings := by
          cases buildSegments chooser xs with
          | error error => rfl
          | ok segments => exact congrArg Except.ok (flatMap_nestings segments)
      _ = ((Reader.read { chooser := chooser } xs).map fun read =>
            (textNestings read.1, read.2.nesting)).map Prod.fst := by
          rw [passages]
          cases Reader.read { chooser := chooser } xs <;> rfl
      _ = ((nestAll [] [] xs).map Prod.fst).mapError Error.unmatchedEnd := by
          rw [nested]
          cases nestAll [] [] xs <;> rfl
  · intro ys same
    rw [placements_of_buildSegments, placements_of_buildSegments, same]

/-- A voice is set inside a paragraph: the sentence that follows is still in it. -/
theorem nestings_around_voice :
    let xs := [.beginParagraph, .voice (some ⟨"v", ""⟩), .beginSentence, .text [.ofChar 'a'],
      .endParagraph, .text [.ofChar 'b']]
    (∀ x ∈ xs, x.isDirect) ∧
      (buildSegments (.scripted [] 0) xs).map (List.flatMap Segment.nestings) =
        .ok [[.paragraph, .sentence], []] := by
  intro xs
  have direct : ∀ x ∈ xs, x.isDirect := by decide
  obtain ⟨-, nestings, -⟩ := nestings_of_buildSegments (.scripted [] 0) direct
  exact ⟨direct, nestings⟩

end Recital
