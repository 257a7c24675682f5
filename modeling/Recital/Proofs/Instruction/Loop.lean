/-
# What unrolling is made of

Rounds are made of the instructions they repeat, of resets and of output volumes:

| an instruction | as a round repeats it |
| --- | --- |
| output volume | one output volume, scaled |
| reset | the reset and, in a scaled round, the scaled full volume |
| anything else | itself |

So what holds of every instruction but loops, of the reset and of every output volume holds
of all that unrolling leaves (`forall_mem_expandLoops`); that no loop is left is one case.
-/

import Recital.Instruction.Loop
import Recital.Proofs.Except

namespace Recital

/-- A factor of 1 leaves every level as it is. -/
theorem scaleVolume_one : ∀ level : Dial.Level .outputVolume,
    scaleVolume level.val .one = .ok (level.val : Int) := by
  decide +kernel

theorem scaleVolume_fullVolume_one : scaleVolume fullVolume .one = .ok fullVolume :=
  scaleVolume_one ⟨100, by decide⟩

namespace Instruction

variable {factor : Binary64} {volume : Int} {rounds : Repeat} {x y : Instruction}
  {xs ys body : List Instruction}

theorem ofLevel_eq_ok {dial : Dial} {v : Int} :
    ofLevel dial (.integer v) = .ok x ↔ ∃ level : dial.Level, (level.val : Int) = v ∧
      x = .turn dial level := by
  rw [ofLevel.eq_def]
  cases v with
  | ofNat n =>
    dsimp only
    split
    · rename_i fits
      constructor
      · rintro ⟨⟩
        exact ⟨⟨n, fits⟩, rfl, rfl⟩
      · rintro ⟨level, same, rfl⟩
        obtain rfl : level.val = n := Int.ofNat.inj same
        rfl
    · rename_i beyond
      constructor
      · rintro ⟨⟩
      · rintro ⟨level, same, rfl⟩
        obtain rfl : level.val = n := Int.ofNat.inj same
        exact absurd level.isLt beyond
  | negSucc n =>
    constructor
    · rintro ⟨⟩
    · rintro ⟨level, same, rfl⟩
      cases same

/-- A volume is scaled to the level that its product rounds to. -/
theorem scaled_eq_ok :
    scaled volume factor = .ok x ↔ ∃ level : Dial.Level .outputVolume,
      scaleVolume volume factor = .ok (level.val : Int) ∧ x = .turn .outputVolume level := by
  simp only [scaled, Except.bind_eq_ok, Except.mapError_eq_ok, ofLevel_eq_ok]
  constructor
  · rintro ⟨v, product, level, rfl, rfl⟩
    exact ⟨level, product, rfl⟩
  · rintro ⟨level, product, rfl⟩
    exact ⟨_, product, level, rfl, rfl⟩

/-- A round brings the scaled full volume about by one instruction, or by none where the
factor is 1. -/
theorem roundVolume_eq_ok (h : roundVolume factor = .ok xs) :
    (factor = .one ∧ xs = []) ∨ ∃ level : Dial.Level .outputVolume,
      scaleVolume fullVolume factor = .ok (level.val : Int) ∧
      xs = [.turn .outputVolume level] := by
  rw [roundVolume] at h
  split at h
  · cases h
    exact .inl ⟨by assumption, rfl⟩
  · obtain ⟨x, product, single⟩ := Except.bind_eq_ok.1 h
    obtain ⟨level, scales, rfl⟩ := scaled_eq_ok.1 product
    cases single
    exact .inr ⟨level, scales, rfl⟩

/-- What a round repeats is the instruction itself, an output volume or a reset with what
brings the scaled full volume about. -/
theorem inRound_eq_ok (h : inRound factor x = .ok xs) :
    (∃ before after : Dial.Level .outputVolume, x = .turn .outputVolume before ∧
      scaleVolume (before.val : Int) factor = .ok (after.val : Int) ∧
      xs = [.turn .outputVolume after]) ∨
    (∃ volume, x = .reset ∧ roundVolume factor = .ok volume ∧ xs = .reset :: volume) ∨
    ((∀ level, x ≠ .turn .outputVolume level) ∧ x ≠ .reset ∧ xs = [x]) := by
  rw [inRound.eq_def] at h
  split at h
  · rename_i before
    obtain ⟨y, product, single⟩ := Except.bind_eq_ok.1 h
    obtain ⟨after, scales, rfl⟩ := scaled_eq_ok.1 product
    cases single
    exact .inl ⟨before, after, rfl, scales, rfl⟩
  · obtain ⟨volume, ok, same⟩ := Except.bind_eq_ok.1 h
    cases same
    exact .inr (.inl ⟨volume, rfl, ok, rfl⟩)
  · rename_i volume reset
    cases h
    exact .inr (.inr ⟨volume, reset, rfl⟩)

/-- A round is a reset unless it is the first, the scaled full volume and the body as
repeated. -/
theorem round_eq_ok {k : Nat} :
    round body rounds k = .ok xs ↔ ∃ factor volume repeated,
      rounds.fade.factor k rounds.count = .ok factor ∧ roundVolume factor = .ok volume ∧
      body.mapM (inRound factor) = .ok repeated ∧
      xs = (if k = 0 then [] else [.reset]) ++ volume ++ repeated.flatten := by
  simp only [round, Except.bind_eq_ok, Except.mapError_eq_ok]
  constructor
  · rintro ⟨factor, factored, volume, ok, repeated, all, same⟩
    exact ⟨factor, volume, repeated, factored, ok, all, (Except.ok.inj same).symm⟩
  · rintro ⟨factor, volume, repeated, factored, ok, all, rfl⟩
    exact ⟨factor, factored, volume, ok, repeated, all, rfl⟩

theorem unroll_eq_ok :
    unroll body rounds = .ok xs ↔ ∃ parts,
      (List.range rounds.count).mapM (round body rounds) = .ok parts ∧ parts.flatten = xs := by
  simp only [unroll, Except.bind_eq_ok]
  refine exists_congr fun parts => and_congr_right fun _ => ?_
  exact ⟨Except.ok.inj, congrArg Except.ok⟩

/-! ### Rounds as they are written -/

/-- What brings the full volume about in a round that scales volumes by a rule; nothing, where
the round is not a scaled one. -/
def fullBy (scale : Dial.Level .outputVolume → Dial.Level .outputVolume) (isScaled : Bool) :
    List Instruction :=
  if isScaled then [.turn .outputVolume (scale ⟨100, by decide⟩)] else []

/-- An instruction as it is repeated in a round that scales volumes by a rule. -/
def repeatedBy (scale : Dial.Level .outputVolume → Dial.Level .outputVolume) (isScaled : Bool)
    (x : Instruction) : List Instruction :=
  match x with
  | .turn .outputVolume level => [.turn .outputVolume (scale level)]
  | .reset => .reset :: fullBy scale isScaled
  | x => [x]

/-- Round `k` of a loop over `body`, where it scales volumes by a rule. -/
def roundBy (scale : Dial.Level .outputVolume → Dial.Level .outputVolume) (isScaled : Bool)
    (body : List Instruction) (k : Nat) : List Instruction :=
  (if k = 0 then [] else [.reset]) ++ fullBy scale isScaled ++
    body.flatMap (repeatedBy scale isScaled)

section Written

variable {scale : Dial.Level .outputVolume → Dial.Level .outputVolume}
  (scales : ∀ level : Dial.Level .outputVolume,
    scaleVolume level.val factor = .ok ((scale level).val : Int))

include scales

theorem roundVolume_eq : roundVolume factor = .ok (fullBy scale (factor ≠ .one)) := by
  unfold roundVolume fullBy
  by_cases one : factor = .one
  · simp [one]
  · have product : scaled fullVolume factor = .ok (.turn .outputVolume (scale ⟨100, by decide⟩)) :=
      scaled_eq_ok.2 ⟨_, scales ⟨100, by decide⟩, rfl⟩
    rw [if_neg one, product]
    simp only [one, ne_eq, not_false_eq_true, decide_true, if_true]
    rfl

theorem inRound_eq (x : Instruction) :
    inRound factor x = .ok (repeatedBy scale (factor ≠ .one) x) := by
  cases x with
  | turn dial level =>
    cases dial with
    | outputVolume =>
      rw [inRound, scaled_eq_ok.2 ⟨_, scales level, rfl⟩]
      rfl
    | _ => rfl
  | reset =>
    rw [inRound, roundVolume_eq scales]
    rfl
  | _ => rfl

/-- **A round is written by the rule** that its factor scales volumes by. -/
theorem round_eq (body : List Instruction) {k : Nat}
    (factored : rounds.fade.factor k rounds.count = .ok factor) :
    round body rounds k = .ok (roundBy scale (factor ≠ .one) body k) :=
  round_eq_ok.2 ⟨factor, _, _, factored, roundVolume_eq scales,
    Except.mapM_eq_ok_map fun x _ => inRound_eq scales x, by rw [roundBy, List.flatMap_def]⟩

end Written

/-- The last loop repeats what the instructions before it were unrolled to. -/
theorem expandLoops_append_loop (xs : List Instruction) (rounds : Repeat) :
    expandLoops (xs ++ [.loop rounds]) = expandLoops xs >>= fun body => unroll body rounds := by
  rw [expandLoops, List.foldlM_append]
  refine bind_congr fun body => ?_
  change (unroll body rounds >>= pure) = unroll body rounds
  cases unroll body rounds <;> rfl

/-- Instructions that are no loops follow what is done as they are. -/
theorem foldlM_follow (h : ∀ x ∈ xs, x.isLoop = false) (done : List Instruction) :
    xs.foldlM follow done = .ok (done ++ xs) := by
  induction xs generalizing done with
  | nil => exact congrArg Except.ok (List.append_nil done).symm
  | cons x xs ih =>
    have step : follow done x = .ok (done ++ [x]) := by
      cases x with
      | loop rounds => cases h _ List.mem_cons_self
      | _ => rfl
    have rest := ih (fun y mem => h y (List.mem_cons_of_mem _ mem)) (done ++ [x])
    rw [List.append_assoc, List.singleton_append] at rest
    rw [List.foldlM_cons, step]
    exact rest

/-- Without loops there is nothing to unroll. -/
theorem expandLoops_eq_self (h : ∀ x ∈ xs, x.isLoop = false) : expandLoops xs = .ok xs :=
  foldlM_follow h []

section Keeping

variable {p : Instruction → Prop} (reset : p .reset)
  (level : ∀ l, p (.turn .outputVolume l))

include level in
theorem forall_mem_roundVolume (ok : roundVolume factor = .ok xs) : ∀ x ∈ xs, p x := by
  rcases roundVolume_eq_ok ok with ⟨_, rfl⟩ | ⟨l, _, rfl⟩
  · simp
  · simpa using level l

include reset level

theorem forall_mem_inRound (holds : p x) (ok : inRound factor x = .ok xs) : ∀ y ∈ xs, p y := by
  rcases inRound_eq_ok ok with ⟨_, after, rfl, _, rfl⟩ | ⟨_, rfl, full, rfl⟩ | ⟨_, _, rfl⟩
  · simpa using level after
  · exact List.forall_mem_cons.2 ⟨reset, forall_mem_roundVolume level full⟩
  · simpa using holds

/-- What holds of a body holds of its rounds. -/
theorem forall_mem_unroll (h : ∀ x ∈ body, p x) (ok : unroll body rounds = .ok xs) :
    ∀ x ∈ xs, p x := by
  obtain ⟨parts, all, rfl⟩ := unroll_eq_ok.1 ok
  intro x mem
  obtain ⟨part, partMem, mem⟩ := List.mem_flatten.1 mem
  obtain ⟨k, -, ok⟩ := Except.exists_of_mem_mapM all partMem
  obtain ⟨factor, full, repeated, -, fullOk, repeatedOk, rfl⟩ := round_eq_ok.1 ok
  rcases List.mem_append.1 mem with mem | mem
  · rcases List.mem_append.1 mem with mem | mem
    · split at mem
      · cases mem
      · obtain rfl := List.mem_singleton.1 mem
        exact reset
    · exact forall_mem_roundVolume level fullOk x mem
  · obtain ⟨ys, ysMem, mem⟩ := List.mem_flatten.1 mem
    obtain ⟨y, yMem, ok⟩ := Except.exists_of_mem_mapM repeatedOk ysMem
    exact forall_mem_inRound reset level (h y yMem) ok x mem

/-- **What unrolling keeps:** what holds of every instruction but loops, of the reset and
of every output volume holds of all that is left. -/
theorem forall_mem_expandLoops (h : ∀ x ∈ xs, x.isLoop = false → p x)
    (ok : expandLoops xs = .ok ys) : ∀ y ∈ ys, p y := by
  -- The induction is on the list from the left, so the instructions done so far vary.
  suffices run : ∀ done, (∀ x ∈ done, p x) → xs.foldlM follow done = .ok ys → ∀ y ∈ ys, p y from
    run [] (by simp) ok
  clear ok
  induction xs with
  | nil =>
    intro done holds same
    cases same
    exact holds
  | cons x xs ih =>
    intro done holds ok
    rw [List.foldlM_cons] at ok
    obtain ⟨next, step, rest⟩ := Except.bind_eq_ok.1 ok
    refine ih (fun y mem => h y (List.mem_cons_of_mem _ mem)) next ?_ rest
    cases loops : x.isLoop with
    | true =>
      cases x with
      | loop rounds => exact forall_mem_unroll reset level holds step
      | _ => cases loops
    | false =>
      have here := h x List.mem_cons_self loops
      obtain rfl : done ++ [x] = next := by
        cases x with
        | loop rounds => cases loops
        | _ => exact Except.ok.inj step
      exact List.forall_mem_append.2 ⟨holds, by simpa using here⟩

end Keeping

/-- Unrolling leaves no loop. -/
theorem isLoop_of_mem_expandLoops (ok : expandLoops xs = .ok ys) : ∀ y ∈ ys, y.isLoop = false :=
  forall_mem_expandLoops rfl (fun _ => rfl) (fun _ _ => id) ok

end Instruction
end Recital
