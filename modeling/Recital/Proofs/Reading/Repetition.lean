/-
# When a prompt can be repeated

A list that is accepted need not be accepted with a loop behind it.  A fading loop scales
the volumes and rounds them, which can make two volumes equal.  Where the second of them
begins a segment in the list itself, it does not in that round, and sentences and paragraphs
that the segment's end would have closed stay open.  They are closed later, together with
what was begun inside them, and the end of that finds nothing to end (`loop_refused`).

So a round is followed by the automaton of sentences and paragraphs with another notion of
when two volumes are the same: `Scaled factor`, that they scale to the same.  A loop is
accepted just if this automaton accepts the list for the factor of each round, and
otherwise it is refused because something is ended that is not open (`loop_accepted_iff`).
The automaton cannot tell the difference as long as no change of volume disappears while a
sentence or paragraph is open, so lists like that can be repeated, and level loops repeat
every list.
-/

import Recital.Proofs.Instruction.Scaling
import Recital.Proofs.Reading.Restart

namespace Recital

/-- The automaton of sentences and paragraphs where `same` says which volumes are the same:
what an instruction after `past` makes of a stack of kinds. -/
def Instruction.nestBy (same : Int → Int → Bool) (past : List Instruction) (nesting : List Kind) :
    Instruction → Except Kind (List Kind)
  | .turn .outputVolume level => .ok (if same level.val (volumeAfter past) then nesting else [])
  | x => x.nest past nesting

/-- The automaton over a list of instructions after `past`: the stack at the end. -/
def nestBy (same : Int → Int → Bool) (past : List Instruction) (nesting : List Kind) :
    List Instruction → Except Kind (List Kind)
  | [] => .ok nesting
  | x :: xs => do
    let next ← x.nestBy same past nesting
    nestBy same (x :: past) next xs

/-- Whether two volumes scale to the same. -/
def Scaled (factor : Binary64) (v w : Int) : Bool :=
  decide (scaleVolume v factor = scaleVolume w factor)

/-- Whether no change of volume disappears by scaling while a sentence or paragraph is
open. -/
def KeepsBoundaries (factor : Binary64) (xs : List Instruction) : Prop :=
  ∀ before level after around nesting, xs = before ++ .turn .outputVolume level :: after →
    nestAll [] [] before = .ok (around, nesting) → nesting ≠ [] →
    (level.val : Int) ≠ volumeAfter before.reverse →
    scaleVolume level.val factor ≠ scaleVolume (volumeAfter before.reverse) factor

/-- Whether the rounds of a loop over a list can be followed. -/
def Repeat.Follows (rounds : Repeat) (xs : List Instruction) : Prop :=
  ∀ k < rounds.count, ∀ factor, rounds.fade.factor k rounds.count = .ok factor →
    ∃ last, nestBy (Scaled factor) [] [] xs = .ok last

variable {same same' : Int → Int → Bool} {past past' xs ys body : List Instruction}
  {nesting : List Kind} {x : Instruction} {factor : Binary64} {rounds : Repeat}

section Volumes

theorem volumeAfter_reset (past : List Instruction) : volumeAfter (.reset :: past) = fullVolume :=
  rfl

theorem volumeAfter_outputVolume (level : Dial.Level .outputVolume) (past : List Instruction) :
    volumeAfter (.turn .outputVolume level :: past) = level.val := by
  rw [volumeAfter, levelAfter_cons rfl]
  rfl

/-- Any other instruction leaves the volume in force. -/
theorem volumeAfter_cons (reset : x ≠ .reset) (volume : ∀ level, x ≠ .turn .outputVolume level) :
    volumeAfter (x :: past) = volumeAfter past := by
  have unset : x.level? .outputVolume = none := by
    cases x with
    | turn dial level =>
      cases dial with
      | outputVolume => exact absurd rfl (volume level)
      | _ => rfl
    | _ => rfl
  have kept : x.isReset = false := Bool.eq_false_iff.2 fun h => reset (Instruction.eq_reset h)
  rw [volumeAfter, levelAfter_cons kept, unset]
  rfl

/-- The volume in force is a level. -/
theorem exists_volumeAfter (past : List Instruction) :
    ∃ level : Dial.Level .outputVolume, volumeAfter past = level.val := by
  induction past with
  | nil => exact ⟨⟨100, by decide⟩, rfl⟩
  | cons x past ih =>
    by_cases reset : x = .reset
    · exact ⟨⟨100, by decide⟩, by rw [reset]; rfl⟩
    · by_cases volume : ∃ level, x = .turn .outputVolume level
      · obtain ⟨level, rfl⟩ := volume
        exact ⟨level, volumeAfter_outputVolume level past⟩
      · obtain ⟨level, same⟩ := ih
        exact ⟨level, (volumeAfter_cons reset fun l h => volume ⟨l, h⟩).trans same⟩

end Volumes

section Automaton

/-- Of the past an instruction other than an output volume needs nothing. -/
theorem Instruction.nest_past (volume : ∀ level, x ≠ .turn .outputVolume level) :
    x.nest past nesting = x.nest past' nesting := by
  cases x with
  | turn dial level =>
    cases dial with
    | outputVolume => exact absurd rfl (volume level)
    | _ => rfl
  | _ => rfl

theorem Instruction.nestBy_of_ne (volume : ∀ level, x ≠ .turn .outputVolume level) :
    x.nestBy same past nesting = x.nest past nesting := by
  cases x with
  | turn dial level =>
    cases dial with
    | outputVolume => exact absurd rfl (volume level)
    | _ => rfl
  | _ => rfl

theorem nestBy_append (same : Int → Int → Bool) (past : List Instruction) (nesting : List Kind)
    (xs ys : List Instruction) :
    nestBy same past nesting (xs ++ ys) =
      (nestBy same past nesting xs).bind fun next => nestBy same (xs.reverse ++ past) next ys := by
  induction xs generalizing past nesting with
  | nil => rfl
  | cons x xs ih =>
    change (x.nestBy same past nesting).bind (fun next => nestBy same (x :: past) next (xs ++ ys)) =
      ((x.nestBy same past nesting).bind fun next => nestBy same (x :: past) next xs).bind _
    rw [List.reverse_cons, List.append_assoc, List.singleton_append]
    cases x.nestBy same past nesting with
    | error kind => rfl
    | ok next => exact ih (x :: past) next

/-- With equal volumes the same this is the automaton of `nestAll`. -/
theorem nestBy_eq (past : List Instruction) (nesting : List Kind) (xs : List Instruction) :
    nestBy (fun v w => v = w) past nesting xs = (nestAll past nesting xs).map Prod.snd := by
  induction xs generalizing past nesting with
  | nil => rfl
  | cons x xs ih =>
    have here : x.nestBy (fun v w => v = w) past nesting = x.nest past nesting := by
      cases x with
      | turn dial level =>
        cases dial with
        | outputVolume => simp [Instruction.nestBy, Instruction.nest]
        | _ => rfl
      | _ => rfl
    change (x.nestBy _ past nesting).bind (fun next => nestBy _ (x :: past) next xs) =
      ((x.nest past nesting).bind fun next => (nestAll (x :: past) next xs).bind _).map Prod.snd
    rw [here]
    cases x.nest past nesting with
    | error kind => rfl
    | ok next =>
      refine (ih (x :: past) next).trans ?_
      change _ = ((nestAll (x :: past) next xs).bind _).map Prod.snd
      cases nestAll (x :: past) next xs <;> rfl

/-- **A list of direct instructions is accepted just if the automaton accepts it.** -/
theorem exists_buildSegments_iff (direct : ∀ x ∈ xs, x.isDirect) (chooser : Chooser) :
    (∃ segments, buildSegments chooser xs = .ok segments) ↔
      ∃ last, nestBy (fun v w => v = w) [] [] xs = .ok last := by
  have passages := passages_of_buildSegments chooser xs
  have nested := (Reader.recalls_fresh chooser).nestAll direct
  rw [nestBy_eq]
  revert passages nested
  cases buildSegments chooser xs <;> cases Reader.read { chooser := chooser } xs <;>
    cases nestAll [] [] xs <;> simp [Except.map, Except.mapError]

/-- The automaton cannot tell two notions of sameness apart that differ only where nothing
is open. -/
theorem nestBy_congr (h : ∀ before level after nesting',
      xs = before ++ .turn .outputVolume level :: after →
      nestBy same past nesting before = .ok nesting' → nesting' ≠ [] →
      same level.val (volumeAfter (before.reverse ++ past)) =
        same' level.val (volumeAfter (before.reverse ++ past))) :
    nestBy same past nesting xs = nestBy same' past nesting xs := by
  induction xs generalizing past nesting with
  | nil => rfl
  | cons x xs ih =>
    have here : x.nestBy same past nesting = x.nestBy same' past nesting := by
      by_cases volume : ∃ level, x = .turn .outputVolume level
      · obtain ⟨level, rfl⟩ := volume
        by_cases empty : nesting = []
        · rw [Instruction.nestBy, Instruction.nestBy, empty, ite_self, ite_self]
        · have agree := h [] level xs nesting rfl rfl empty
          rw [List.reverse_nil, List.nil_append] at agree
          rw [Instruction.nestBy, Instruction.nestBy, agree]
      · have other : ∀ level, x ≠ .turn .outputVolume level := fun l same => volume ⟨l, same⟩
        rw [Instruction.nestBy_of_ne other, Instruction.nestBy_of_ne other]
    rw [nestBy, nestBy, ← here]
    cases step : x.nestBy same past nesting with
    | error kind => rfl
    | ok next =>
      refine ih fun before level after nesting' split followed isOpen => ?_
      have agree := h (x :: before) level after nesting' (by rw [split]; rfl)
        (by rw [nestBy, step]; exact followed) isOpen
      rwa [List.reverse_cons, List.append_assoc, List.singleton_append] at agree

end Automaton

section Rounds

/-- What brings the scaled full volume about does so where the full volume is in force, and
leaves nothing open. -/
theorem nestBy_roundVolume (full : volumeAfter past = fullVolume)
    (ok : Instruction.roundVolume factor = .ok xs) :
    nestBy (fun v w => v = w) past [] xs = .ok [] ∧
      scaleVolume fullVolume factor = .ok (volumeAfter (xs.reverse ++ past)) := by
  rcases Instruction.roundVolume_eq_ok ok with ⟨rfl, rfl⟩ | ⟨level, scales, rfl⟩
  · refine ⟨rfl, ?_⟩
    rw [List.reverse_nil, List.nil_append, full]
    exact scaleVolume_fullVolume_one
  · rw [List.reverse_singleton, List.singleton_append, volumeAfter_outputVolume]
    refine ⟨?_, scales⟩
    change Except.ok (if _ then [] else []) = Except.ok []
    rw [ite_self]

/-- **An instruction as a round repeats it** does to the stack what the instruction does
where volumes are the same that scale to the same, and leaves the scaled volume. -/
theorem nestBy_inRound (nesting : List Kind)
    (volume : scaleVolume (volumeAfter past) factor = .ok (volumeAfter past'))
    (ok : Instruction.inRound factor x = .ok ys) :
    nestBy (fun v w => v = w) past' nesting ys = x.nestBy (Scaled factor) past nesting ∧
      scaleVolume (volumeAfter (x :: past)) factor = .ok (volumeAfter (ys.reverse ++ past')) := by
  rcases Instruction.inRound_eq_ok ok with ⟨before, after, rfl, scales, rfl⟩ |
    ⟨full, rfl, fullOk, rfl⟩ | ⟨other, kept, rfl⟩
  · rw [volumeAfter_outputVolume, List.reverse_singleton, List.singleton_append,
      volumeAfter_outputVolume]
    refine ⟨?_, scales⟩
    have iff : (scaleVolume before.val factor = scaleVolume (volumeAfter past) factor) ↔
        (after.val : Int) = volumeAfter past' := by
      rw [scales, volume]
      exact ⟨Except.ok.inj, congrArg Except.ok⟩
    change Except.ok (if decide _ = true then nesting else []) =
      Except.ok (if decide _ = true then nesting else [])
    simp only [iff]
  · have prepared := nestBy_roundVolume (volumeAfter_reset past') fullOk
    rw [List.reverse_cons, List.append_assoc, List.singleton_append]
    exact prepared
  · rw [volumeAfter_cons kept other, List.reverse_singleton, List.singleton_append,
      volumeAfter_cons kept other]
    refine ⟨?_, volume⟩
    change (x.nestBy _ past' nesting).bind Except.ok = _
    rw [Instruction.nestBy_of_ne other, Instruction.nestBy_of_ne other,
      Instruction.nest_past other]
    cases x.nest past nesting <;> rfl

/-- **A body as a round repeats it.** -/
theorem nestBy_inRounds {parts : List (List Instruction)}
    (volume : scaleVolume (volumeAfter past) factor = .ok (volumeAfter past'))
    (ok : body.mapM (Instruction.inRound factor) = .ok parts) :
    nestBy (fun v w => v = w) past' nesting parts.flatten =
      nestBy (Scaled factor) past nesting body := by
  have all := Except.mapM_eq_ok.1 ok
  clear ok
  induction all generalizing past past' nesting with
  | nil => rfl
  | cons here _ ih =>
    obtain ⟨same, scales⟩ := nestBy_inRound nesting volume here
    rw [List.flatten_cons, nestBy_append, same, nestBy]
    exact congrArg (Except.bind _) (funext fun next => ih scales)

/-- What a round begins with leaves nothing open and the full volume in force, unless it is
the first, before which nothing has been done. -/
theorem nestBy_lead {k : Nat} (first : k = 0 → past = [] ∧ nesting = []) :
    nestBy (fun v w => v = w) past nesting (if k = 0 then [] else [.reset]) = .ok [] ∧
      volumeAfter ((if k = 0 then [] else [Instruction.reset]).reverse ++ past) = fullVolume := by
  split
  · rename_i zero
    obtain ⟨rfl, rfl⟩ := first zero
    exact ⟨rfl, rfl⟩
  · exact ⟨rfl, rfl⟩

/-- **A round** is followed as its body is from the start, whatever was open before it. -/
theorem nestBy_round {k : Nat} (first : k = 0 → past = [] ∧ nesting = [])
    (factored : rounds.fade.factor k rounds.count = .ok factor)
    (ok : Instruction.round body rounds k = .ok xs) :
    nestBy (fun v w => v = w) past nesting xs = nestBy (Scaled factor) [] [] body := by
  obtain ⟨factor', volume, parts, factored', full, repeated, rfl⟩ := Instruction.round_eq_ok.1 ok
  obtain rfl := Except.ok.inj (factored'.symm.trans factored)
  obtain ⟨lead, fresh⟩ := nestBy_lead first
  obtain ⟨prepared, scales⟩ := nestBy_roundVolume fresh full
  rw [List.append_assoc, nestBy_append, lead]
  change nestBy _ _ [] (volume ++ parts.flatten) = _
  rw [nestBy_append, prepared]
  exact nestBy_inRounds scales repeated

/-- **All rounds** from `k` on can be followed just if each can on its own. -/
theorem exists_nestBy_rounds_iff {parts : List (List Instruction)} {k n : Nat}
    (first : k = 0 → past = [] ∧ nesting = [])
    (ok : (List.range' k n).mapM (Instruction.round body rounds) = .ok parts) :
    (∃ last, nestBy (fun v w => v = w) past nesting parts.flatten = .ok last) ↔
      ∀ j, k ≤ j → j < k + n → ∀ factor, rounds.fade.factor j rounds.count = .ok factor →
        ∃ last, nestBy (Scaled factor) [] [] body = .ok last := by
  induction n generalizing k past nesting parts with
  | zero =>
    cases ok
    exact ⟨fun _ j _ _ => by omega, fun _ => ⟨nesting, rfl⟩⟩
  | succ n ih =>
    rw [List.range'_succ, Except.mapM_eq_ok, List.forall₂_cons_left_iff] at ok
    obtain ⟨part, others, here, later, rfl⟩ := ok
    obtain ⟨factor, _, _, factored, _⟩ := Instruction.round_eq_ok.1 here
    rw [List.flatten_cons, nestBy_append, nestBy_round first factored here]
    constructor
    · rintro ⟨last, followed⟩ j le lt factor' factored'
      obtain ⟨next, round, rest⟩ := Except.bind_eq_ok.1 followed
      rcases Nat.eq_or_lt_of_le le with rfl | le
      · obtain rfl := Except.ok.inj (factored.symm.trans factored')
        exact ⟨next, round⟩
      · exact (ih (by simp) (Except.mapM_eq_ok.2 later)).1 ⟨last, rest⟩ j le (by omega) factor'
          factored'
    · intro each
      obtain ⟨next, round⟩ := each k le_rfl (by omega) factor factored
      have rounds : ∃ last, nestBy (fun v w => v = w) (part.reverse ++ past) next others.flatten =
          .ok last :=
        (ih (by simp) (Except.mapM_eq_ok.2 later)).2 fun j le lt => each j (by omega) (by omega)
      obtain ⟨last, rest⟩ := rounds
      exact ⟨last, Except.bind_eq_ok.2 ⟨next, round, rest⟩⟩

end Rounds

/-- A direct instruction is no loop. -/
theorem Instruction.isLoop_of_isDirect (direct : x.isDirect) : x.isLoop = false := by
  cases x with
  | loop rounds => cases direct
  | _ => rfl

/-- A list of direct instructions with a loop behind it unrolls to direct instructions,
round by round. -/
theorem expandLoops_direct (direct : ∀ x ∈ xs, x.isDirect) (rounds : Repeat) :
    ∃ parts, (List.range rounds.count).mapM (Instruction.round xs rounds) = .ok parts ∧
      Instruction.expandLoops (xs ++ [.loop rounds]) = .ok parts.flatten ∧
      ∀ y ∈ parts.flatten, y.isDirect := by
  obtain ⟨ys, unrolled⟩ := Instruction.exists_unroll xs rounds
  obtain ⟨parts, all, rfl⟩ := Instruction.unroll_eq_ok.1 unrolled
  refine ⟨parts, all, ?_, Instruction.forall_mem_unroll rfl (fun _ => rfl) direct unrolled⟩
  rw [Instruction.expandLoops_append_loop,
    Instruction.expandLoops_eq_self fun x mem => Instruction.isLoop_of_isDirect (direct x mem)]
  exact unrolled

/-- Where no change of volume disappears, the automaton follows the list as it does without
scaling. -/
theorem KeepsBoundaries.exists_nestBy (h : KeepsBoundaries factor xs)
    (followed : ∃ last, nestBy (fun v w => v = w) [] [] xs = .ok last) :
    ∃ last, nestBy (Scaled factor) [] [] xs = .ok last := by
  have agree : nestBy (fun v w => v = w) [] [] xs = nestBy (Scaled factor) [] [] xs := by
    refine nestBy_congr fun before level after nesting split reached isOpen => ?_
    rw [nestBy_eq] at reached
    obtain ⟨⟨around, _⟩, nested, rfl⟩ := Except.map_eq_ok.1 reached
    rw [List.append_nil]
    by_cases equal : (level.val : Int) = volumeAfter before.reverse
    · simp [Scaled, equal]
    · simpa [Scaled, equal] using h before level after around _ split nested isOpen equal
  rwa [← agree]

/-- In a level loop no change of volume disappears. -/
theorem keepsBoundaries_one (xs : List Instruction) : KeepsBoundaries .one xs := by
  intro before level after around nesting _ _ _ change same
  obtain ⟨now, volume⟩ := exists_volumeAfter before.reverse
  rw [volume, scaleVolume_one, scaleVolume_one] at same
  exact change (volume ▸ Except.ok.inj same)

/-- **A prompt that cannot be repeated.**  The list is accepted.  In the second round the
volume 99 scales to 50 like the full volume, the paragraph stays open over it, and beginning
a paragraph closes the sentence in it. -/
theorem loop_refused :
    let xs := [.beginParagraph, .turn .outputVolume 99, .beginSentence, .beginParagraph,
      .endSentence]
    let rounds : Repeat := ⟨2, .fadeOut, by decide⟩
    (∀ x ∈ xs, x.isDirect) ∧ buildSegments (.scripted [] 0) xs = .ok [] ∧
      (Instruction.expandLoops (xs ++ [.loop rounds]) >>= buildSegments (.scripted [] 0)) =
        .error (.unmatchedEnd .sentence) := by
  refine ⟨by decide, rfl, ?_⟩
  rfl

/-- **When a prompt can be repeated.**  A list that is accepted is accepted with a loop
behind it just if the automaton of sentences and paragraphs can follow it in each round,
where volumes are the same that scale to the same, and is refused otherwise because it ends
what is not open.  It is accepted if the loop is level, and if no change of volume
disappears in any round while a sentence or paragraph is open. -/
theorem loop_accepted_iff {once : List Segment} {chooser : Chooser}
    (direct : ∀ x ∈ xs, x.isDirect) (built : buildSegments chooser xs = .ok once)
    (rounds : Repeat) (chooser' : Chooser) :
    let looped := Instruction.expandLoops (xs ++ [.loop rounds]) >>= buildSegments chooser'
    ((∃ all, looped = .ok all) ↔ rounds.Follows xs) ∧
      (∀ error, looped = .error error → ∃ kind, error = .unmatchedEnd kind) ∧
      (rounds.fade = .level → ∃ all, looped = .ok all) ∧
      ((∀ k < rounds.count, ∀ factor, rounds.fade.factor k rounds.count = .ok factor →
        KeepsBoundaries factor xs) → ∃ all, looped = .ok all) := by
  intro looped
  obtain ⟨parts, all, expanded, directRounds⟩ := expandLoops_direct direct rounds
  have built' : looped = buildSegments chooser' parts.flatten := by
    change Instruction.expandLoops _ >>= _ = _
    rw [expanded]
    rfl
  have accepted : (∃ all, looped = .ok all) ↔ rounds.Follows xs := by
    rw [List.range_eq_range'] at all
    rw [built', exists_buildSegments_iff directRounds, exists_nestBy_rounds_iff (by simp) all]
    simp [Repeat.Follows]
  have followed := (exists_buildSegments_iff direct chooser).1 ⟨once, built⟩
  refine ⟨accepted, ?_, ?_, ?_⟩
  · intro error refused
    exact unmatchedEnd_of_buildSegments directRounds (built' ▸ refused)
  · intro level
    refine accepted.2 fun k _ factor factored => ?_
    rw [level] at factored
    obtain rfl := Except.ok.inj factored
    exact (keepsBoundaries_one xs).exists_nestBy followed
  · intro keeps
    exact accepted.2 fun k lt factor factored => (keeps k lt factor factored).exists_nestBy followed

/-- In the second round the volume 99 scales to 50 like the full volume, but nothing is open
where the list changes it. -/
theorem loop_accepted_at_merged_volume :
    let xs := [.beginSentence, .text [.ofChar 'a'], .endSentence, .turn .outputVolume 99,
      .beginParagraph, .text [.ofChar 'b']]
    let rounds : Repeat := ⟨2, .fadeOut, by decide⟩
    (∀ x ∈ xs, x.isDirect) ∧ (∃ once, buildSegments (.scripted [] 0) xs = .ok once) ∧
      ∃ all, (Instruction.expandLoops (xs ++ [.loop rounds]) >>=
        buildSegments (.scripted [] 0)) = .ok all := by
  intro xs rounds
  have direct : ∀ x ∈ xs, x.isDirect := by decide
  have built : ∃ once, buildSegments (.scripted [] 0) xs = .ok once := ⟨_, rfl⟩
  obtain ⟨once, ok⟩ := built
  have follows : rounds.Follows xs := by
    intro k lt factor factored
    have whole : Fade.fadeOut.factor (0 : Nat) (2 : Nat) = .ok .one := by decide
    have halved : Fade.fadeOut.factor (1 : Nat) (2 : Nat) = .ok .half := by decide
    rcases Nat.lt_succ_iff_lt_or_eq.1 lt with first | rfl
    · obtain rfl := Nat.lt_one_iff.1 first
      obtain rfl := Except.ok.inj (whole.symm.trans factored)
      exact ⟨_, rfl⟩
    · obtain rfl := Except.ok.inj (halved.symm.trans factored)
      exact ⟨_, rfl⟩
  obtain ⟨accepted, -⟩ := loop_accepted_iff direct ok rounds (.scripted [] 0)
  exact ⟨direct, ⟨once, ok⟩, accepted.2 follows⟩

end Recital
