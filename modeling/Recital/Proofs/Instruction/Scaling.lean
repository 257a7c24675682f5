/-
# Unrolling always succeeds

Scaling could fail in several ways: the factor of a round could be an infinity, a product
could be no number, and what it rounds to could be no level of the output volume.  None of
them comes about, whatever the levels, the fade and the number of rounds:

| step | bound |
| --- | ---: |
| the factor of a round | 1 |
| a level times the factor | 100 |
| and a half | 100.5 |
| the whole part | 100 |

Each step is rounded, which does not pass the bound.  So a volume scales to a level
(`exists_scaleVolume`), and every list of instructions can be unrolled
(`exists_expandLoops`).
-/

import Recital.Proofs.Binary64.Bound
import Recital.Proofs.Instruction.Loop

namespace Recital

open Binary64 (UpTo)

theorem upTo_one : UpTo 1 Binary64.one := by
  refine ⟨_, _, rfl, ?_⟩
  rw [powerOfTwo_eq]
  norm_num

/-- **The factor of a round** is a number up to 1. -/
theorem Repeat.exists_factor (rounds : Repeat) {k : Nat} (h : k < rounds.count) :
    ∃ factor, rounds.fade.factor k rounds.count = .ok factor ∧ UpTo 1 factor := by
  cases rounds.fade with
  | level => exact ⟨_, rfl, upTo_one⟩
  | fadeIn =>
    have ratio := Binary64.upTo_ofRatio (Nat.zero_lt_of_lt h) (Nat.succ_le_of_lt h)
    rwa [Nat.cast_succ] at ratio
  | fadeOut =>
    have ratio := Binary64.upTo_ofRatio (Nat.zero_lt_of_lt h) (Nat.sub_le rounds.count k)
    rwa [Nat.cast_sub h.le] at ratio

/-- **A level scales to a level.** -/
theorem exists_scaleVolume {factor : Binary64} (upTo : UpTo 1 factor)
    (level : Dial.Level .outputVolume) :
    ∃ scaled : Dial.Level .outputVolume, scaleVolume level.val factor = .ok (scaled.val : Int) := by
  have level_le : level.val ≤ 100 := Nat.le_of_lt_succ level.isLt
  obtain ⟨v, exact, m, e, rfl, le⟩ := Binary64.upTo_ofInt (show level.val < 2 ^ 53 by omega)
  have whole : UpTo ((100 : Nat) * 2 ^ (0 : Int)) (.finite false m e) := by
    refine ⟨m, e, rfl, le.trans ?_⟩
    rw [zpow_zero, mul_one]
    exact_mod_cast level_le
  have product := whole.mul upTo (by norm_num) (by decide) (by decide)
  have sum := product.add Binary64.upTo_half (b := 201) (t := -1) (by norm_num) (by norm_num)
    (by decide) (by decide)
  obtain ⟨n, truncated, n_le⟩ := sum.truncate
  have fits : n < Dial.outputVolume.top + 1 := by
    have bound : (n : ℚ) < (101 : Nat) := n_le.trans_lt (by norm_num)
    exact_mod_cast bound
  refine ⟨⟨n, fits⟩, ?_⟩
  rw [scaleVolume, exact]
  exact truncated

/-- The full volume is a level, so it scales to one. -/
theorem exists_scaleVolume_fullVolume {factor : Binary64} (upTo : UpTo 1 factor) :
    ∃ scaled : Dial.Level .outputVolume,
      scaleVolume fullVolume factor = .ok (scaled.val : Int) :=
  exists_scaleVolume upTo ⟨100, by decide⟩

namespace Instruction

variable {factor : Binary64} {rounds : Repeat}

theorem exists_roundVolume (upTo : UpTo 1 factor) : ∃ xs, roundVolume factor = .ok xs := by
  rw [roundVolume]
  split
  · exact ⟨_, rfl⟩
  · obtain ⟨level, scales⟩ := exists_scaleVolume_fullVolume upTo
    rw [scaled_eq_ok.2 ⟨level, scales, rfl⟩]
    exact ⟨_, rfl⟩

theorem exists_inRound (upTo : UpTo 1 factor) (x : Instruction) :
    ∃ xs, inRound factor x = .ok xs := by
  rw [inRound.eq_def]
  split
  · rename_i level
    obtain ⟨after, scales⟩ := exists_scaleVolume upTo level
    rw [scaled_eq_ok.2 ⟨after, scales, rfl⟩]
    exact ⟨_, rfl⟩
  · obtain ⟨volume, ok⟩ := exists_roundVolume upTo
    rw [ok]
    exact ⟨_, rfl⟩
  · exact ⟨_, rfl⟩

theorem exists_round (body : List Instruction) {k : Nat} (h : k < rounds.count) :
    ∃ xs, round body rounds k = .ok xs := by
  obtain ⟨factor, factored, upTo⟩ := rounds.exists_factor h
  obtain ⟨volume, full⟩ := exists_roundVolume upTo
  obtain ⟨repeated, all⟩ := Except.exists_mapM_eq_ok fun x (_ : x ∈ body) => exists_inRound upTo x
  exact ⟨_, round_eq_ok.2 ⟨factor, volume, repeated, factored, full, all, rfl⟩⟩

theorem exists_unroll (body : List Instruction) (rounds : Repeat) :
    ∃ xs, unroll body rounds = .ok xs := by
  obtain ⟨parts, all⟩ := Except.exists_mapM_eq_ok fun k (mem : k ∈ List.range rounds.count) =>
    exists_round body (List.mem_range.1 mem)
  exact ⟨_, unroll_eq_ok.2 ⟨parts, all, rfl⟩⟩

/-- **Every list of instructions can be unrolled.** -/
theorem exists_expandLoops (xs : List Instruction) : ∃ ys, expandLoops xs = .ok ys := by
  have run : ∀ done, ∃ ys, xs.foldlM follow done = .ok ys := by
    induction xs with
    | nil => exact fun done => ⟨done, rfl⟩
    | cons x xs ih =>
      intro done
      obtain ⟨next, step⟩ : ∃ next, follow done x = .ok next := by
        cases x with
        | loop rounds => exact exists_unroll done rounds
        | _ => exact ⟨_, rfl⟩
      obtain ⟨ys, rest⟩ := ih next
      exact ⟨ys, by rw [List.foldlM_cons, step]; exact rest⟩
  exact run []

end Instruction
end Recital
