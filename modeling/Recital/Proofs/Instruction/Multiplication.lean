/-
# Level loops multiply

A round with the factor 1 changes no volume, so it repeats its body as it is, and a loop of
such rounds is its body over and over with a reset between every two copies.  Put one more
reset in front, and every copy has a reset of its own:

| list | with a reset in front |
| --- | --- |
| `copies n body` | `n` times a reset and `body` |
| `copies n (copies m body)` | `n` times a reset and `copies m body`, which is `m * n` times a reset and `body` |

So a level loop of `m` rounds and one of `n` rounds behind it are one of `m * n` rounds, one
round of any fade is none, and what stands behind all loops is left alone
(`expandLoops_levels`).
-/

import Recital.Proofs.Instruction.Scaling

namespace Recital
namespace Instruction

/-- A body `n` times, for positive `n`, with a reset between every two copies. -/
def copies (n : Nat) (body : List Instruction) : List Instruction :=
  body ++ (List.replicate (n - 1) (.reset :: body)).flatten

variable {rounds : Repeat} {body xs ys zs : List Instruction} {m n k : Nat}

/-! ### Copies -/

@[simp]
theorem copies_one (body : List Instruction) : copies 1 body = body := by
  simp [copies]

/-- With a reset in front, every copy has one of its own. -/
theorem reset_cons_copies (positive : 0 < n) (body : List Instruction) :
    .reset :: copies n body = (List.replicate n (.reset :: body)).flatten := by
  obtain ⟨n, rfl⟩ := Nat.exists_eq_succ_of_ne_zero positive.ne'
  simp [copies, List.replicate_succ]

/-- **Copies of copies** are copies. -/
theorem copies_copies (hm : 0 < m) (hn : 0 < n) (body : List Instruction) :
    copies n (copies m body) = copies (m * n) body := by
  have fronts : Instruction.reset :: copies n (copies m body) = .reset :: copies (m * n) body :=
    calc Instruction.reset :: copies n (copies m body)
        = (List.replicate n (.reset :: copies m body)).flatten := reset_cons_copies hn _
      _ = (List.replicate n (List.replicate m (.reset :: body)).flatten).flatten := by
        rw [reset_cons_copies hm]
      _ = (List.replicate n (List.replicate m (.reset :: body))).flatten.flatten := by
        rw [List.flatten_flatten, List.map_replicate]
      _ = (List.replicate (m * n) (.reset :: body)).flatten := by
        rw [List.flatten_replicate_replicate, Nat.mul_comm]
      _ = .reset :: copies (m * n) body := (reset_cons_copies (Nat.mul_pos hm hn) _).symm
  exact (List.cons.inj fronts).2

/-! ### Rounds with the factor 1 -/

/-- Where volumes are kept, every instruction is repeated as it is. -/
theorem roundBy_id (body : List Instruction) (k : Nat) :
    roundBy id false body k = (if k = 0 then [] else [.reset]) ++ body := by
  have same : repeatedBy id false = fun x => [x] := by
    funext x
    unfold repeatedBy
    split <;> rfl
  simp [roundBy, fullBy, same]

/-- A round with the factor 1 is the body, behind a reset unless it is the first. -/
theorem round_of_factor (h : rounds.fade.factor k rounds.count = .ok .one) :
    round body rounds k = .ok ((if k = 0 then [] else [.reset]) ++ body) := by
  rw [round_eq scaleVolume_one body h, ← roundBy_id]
  rfl

/-- **A loop of rounds with the factor 1** is its body over and over. -/
theorem unroll_of_factors (h : ∀ k < rounds.count, rounds.fade.factor k rounds.count = .ok .one) :
    unroll body rounds = .ok (copies rounds.count body) := by
  refine unroll_eq_ok.2 ⟨_, Except.mapM_eq_ok_map fun k mem =>
    round_of_factor (h k (List.mem_range.1 mem)), ?_⟩
  obtain ⟨n, count⟩ := Nat.exists_eq_succ_of_ne_zero rounds.positive.ne'
  simp [count, copies, List.range_succ_eq_map, Function.comp_def, List.map_const']

theorem unroll_level (positive : 0 < n) (body : List Instruction) :
    unroll body ⟨n, .level, positive⟩ = .ok (copies n body) :=
  unroll_of_factors fun _ _ => rfl

/-- One round of any fade has the factor 1, so it is the body. -/
theorem unroll_once (fade : Fade) (body : List Instruction) :
    unroll body ⟨1, fade, Nat.one_pos⟩ = .ok body := by
  rw [unroll_of_factors, copies_one]
  intro k (lt : k < 1)
  obtain rfl : k = 0 := by omega
  cases fade with
  | level => rfl
  | fadeIn => decide
  | fadeOut => decide

/-! ### Lists with loops -/

/-- What stands behind all loops is left alone. -/
theorem expandLoops_append (ok : expandLoops xs = .ok ys) (h : ∀ z ∈ zs, z.isLoop = false) :
    expandLoops (xs ++ zs) = .ok (ys ++ zs) := by
  rw [expandLoops] at ok ⊢
  rw [List.foldlM_append, ok]
  exact foldlM_follow h ys

theorem expandLoops_append_level (ok : expandLoops xs = .ok ys) (positive : 0 < n) :
    expandLoops (xs ++ [.loop ⟨n, .level, positive⟩]) = .ok (copies n ys) := by
  rw [expandLoops_append_loop, ok]
  exact unroll_level positive ys

theorem expandLoops_append_once (ok : expandLoops xs = .ok ys) (fade : Fade) :
    expandLoops (xs ++ [.loop ⟨1, fade, Nat.one_pos⟩]) = .ok ys := by
  rw [expandLoops_append_loop, ok]
  exact unroll_once fade ys

/-- **Level loops multiply.**  A list of instructions, which may hold loops, is unrolled to one
without loops.  A level loop behind it is that list over and over, so two of them are one with
the product of their counts; one round of any fade changes nothing; and instructions behind it
that are no loops are left as they are. -/
theorem expandLoops_levels (xs : List Instruction) :
    ∃ ys, expandLoops xs = .ok ys ∧ (∀ y ∈ ys, y.isLoop = false) ∧
      (∀ n (hn : 0 < n), expandLoops (xs ++ [.loop ⟨n, .level, hn⟩]) = .ok (copies n ys)) ∧
      (∀ m n (hm : 0 < m) (hn : 0 < n),
        expandLoops (xs ++ [.loop ⟨m, .level, hm⟩, .loop ⟨n, .level, hn⟩]) =
          expandLoops (xs ++ [.loop ⟨m * n, .level, Nat.mul_pos hm hn⟩])) ∧
      (∀ fade, expandLoops (xs ++ [.loop ⟨1, fade, Nat.one_pos⟩]) = .ok ys) ∧
      ∀ zs, (∀ z ∈ zs, z.isLoop = false) → expandLoops (xs ++ zs) = .ok (ys ++ zs) := by
  obtain ⟨ys, ok⟩ := exists_expandLoops xs
  refine ⟨ys, ok, isLoop_of_mem_expandLoops ok, fun n hn => expandLoops_append_level ok hn, ?_,
    expandLoops_append_once ok, fun zs => expandLoops_append ok⟩
  intro m n hm hn
  have first := expandLoops_append_level ok hm
  rw [List.append_cons, expandLoops_append_level first hn, copies_copies hm hn,
    expandLoops_append_level ok (Nat.mul_pos hm hn)]

/-- Two level loops behind a loop that fades out: six copies of its two rounds. -/
theorem expandLoops_two_by_three :
    let xs := [.turn .rate 3, .loop ⟨2, .fadeOut, by decide⟩]
    let ys : List Instruction := [.turn .rate 3, .reset, outputVolume 50, .turn .rate 3]
    0 < 2 ∧ 0 < 3 ∧ endSentence.isLoop = false ∧
      expandLoops (xs ++ [.loop ⟨2, .level, by decide⟩, .loop ⟨3, .level, by decide⟩]) =
        .ok (copies 6 ys) ∧
      expandLoops (xs ++ [.loop ⟨1, .fadeIn, by decide⟩]) = .ok ys ∧
      expandLoops (xs ++ [.endSentence]) = .ok (ys ++ [.endSentence]) := by
  intro xs ys
  obtain ⟨done, ok, -, level, product, once, rest⟩ := expandLoops_levels xs
  have unrolled : expandLoops xs = .ok ys := rfl
  obtain rfl : done = ys := Except.ok.inj (ok.symm.trans unrolled)
  refine ⟨by decide, by decide, rfl, ?_, once .fadeIn, rest [.endSentence] (by decide)⟩
  exact (product 2 3 (by decide) (by decide)).trans (level 6 (by decide))

end Instruction
end Recital
