/-
# Where rounding turns

An amount between two neighbouring numbers is rounded to the nearer one, so what comes out
turns from `b * 2 ^ t` to `(b + 1) * 2 ^ t` at the middle between them, `(2 * b + 1) * 2 ^ (t - 1)`,
and the middle itself goes to the even one:

| exact amount | even `b` | odd `b` |
| --- | --- | --- |
| below the middle | at most `b * 2 ^ t` | at most `b * 2 ^ t` |
| the middle | at most `b * 2 ^ t` | at least `(b + 1) * 2 ^ t` |
| above the middle | at least `(b + 1) * 2 ^ t` | at least `(b + 1) * 2 ^ t` |

`amount` is what a number stands for.  All of this is read off the grid that an amount is rounded
on (`RoundedFrom.exists_grid`).
-/

import Recital.Proofs.Binary64.Order

namespace Recital

/-! ### Whole numbers -/

section Whole

variable {num den b : Nat}

theorem le_roundHalfEven_of_le (positive : 0 < den) (h : b * den ≤ num) :
    b ≤ roundHalfEven num den :=
  ((Nat.le_div_iff_mul_le positive).2 h).trans (le_roundHalfEven num den)

/-- Up to a half above a whole number, or at the half above an even one, rounding does not pass
it. -/
theorem roundHalfEven_le_of_half (positive : 0 < den)
    (h : 2 * num < (2 * b + 1) * den ∨ 2 * num = (2 * b + 1) * den ∧ b % 2 = 0) :
    roundHalfEven num den ≤ b := by
  have split := Nat.div_add_mod num den
  rw [Nat.mul_comm] at split
  have twice : (2 * b + 1) * den = 2 * (b * den) + den := by ring
  rcases Nat.lt_trichotomy (num / den) b with below | same | above
  · exact (roundHalfEven_le_succ num den).trans below
  · unfold roundHalfEven
    dsimp only
    rw [same] at split ⊢
    split_ifs <;> omega
  · have more : (b + 1) * den ≤ num / den * den := Nat.mul_le_mul_right den above
    rw [Nat.add_mul, Nat.one_mul] at more
    omega

/-- Beyond a half above a whole number, or at the half above an odd one, rounding passes it. -/
theorem lt_roundHalfEven_of_half
    (h : (2 * b + 1) * den < 2 * num ∨ (2 * b + 1) * den = 2 * num ∧ b % 2 = 1)
    (positive : 0 < den) : b < roundHalfEven num den := by
  have split := Nat.div_add_mod num den
  have rest := Nat.mod_lt num positive
  rw [Nat.mul_comm] at split
  have twice : (2 * b + 1) * den = 2 * (b * den) + den := by ring
  rcases Nat.lt_trichotomy (num / den) b with below | same | above
  · have less : (num / den + 1) * den ≤ b * den := Nat.mul_le_mul_right den below
    rw [Nat.add_mul, Nat.one_mul] at less
    omega
  · unfold roundHalfEven
    dsimp only
    rw [same] at split ⊢
    split_ifs <;> omega
  · exact above.trans_le (le_roundHalfEven num den)

theorem roundHalfEven_error (num : Nat) (positive : 0 < den) :
    |(roundHalfEven num den : ℚ) - num / den| ≤ 1 / 2 := by
  have split := Nat.div_add_mod num den
  have rest := Nat.mod_lt num positive
  rw [Nat.mul_comm] at split
  have near : 2 * num ≤ 2 * (roundHalfEven num den * den) + den ∧
      2 * (roundHalfEven num den * den) ≤ 2 * num + den := by
    unfold roundHalfEven
    dsimp only
    have step : (num / den + 1) * den = num / den * den + den := by ring
    split_ifs with down up
    · omega
    · omega
    · rcases Nat.mod_two_eq_zero_or_one (num / den) with even | odd
      · rw [even, Nat.add_zero]
        omega
      · rw [odd]
        omega
  have den' : (0 : ℚ) < den := by exact_mod_cast positive
  obtain ⟨low, high⟩ := near
  have low' : (2 * num : ℚ) ≤ 2 * (roundHalfEven num den * den) + den := by exact_mod_cast low
  have high' : (2 * (roundHalfEven num den * den) : ℚ) ≤ 2 * num + den := by exact_mod_cast high
  rw [abs_le, le_sub_iff_add_le, sub_le_iff_le_add, ← sub_le_iff_le_add', le_div_iff₀ den',
    ← le_sub_iff_add_le', div_le_iff₀ den']
  constructor <;> linarith

end Whole

namespace Binary64

theorem lt_of_two_zpow_lt {m n : Int} (h : (2 : ℚ) ^ m < 2 ^ n) : m < n :=
  (zpow_lt_zpow_iff_right₀ one_lt_two).1 h

/-! ### Amounts -/

/-- What a finite number stands for; the others stand for nothing here. -/
def amount : Binary64 → ℚ
  | .finite negative m e => signed negative m * 2 ^ e
  | _ => 0

variable {bound other exact : ℚ} {x y : Binary64} {b : Nat} {t : Int}

@[simp]
theorem amount_finite (m : Nat) (e : Int) : (finite false m e).amount = m * 2 ^ e := by
  simp [amount, signed]

theorem UpTo.amount_nonneg (h : UpTo bound x) : 0 ≤ x.amount := by
  obtain ⟨m, e, rfl, -⟩ := h
  rw [amount_finite]
  positivity

theorem UpTo.amount_le (h : UpTo bound x) : x.amount ≤ bound := by
  obtain ⟨m, e, rfl, le⟩ := h
  rwa [amount_finite]

theorem UpTo.roundedFrom_mul (hx : UpTo bound x) (hy : UpTo other y) :
    RoundedFrom (x.amount * y.amount) (x.mul y) := by
  obtain ⟨m, e, rfl, -⟩ := hx
  obtain ⟨n, f, rfl, -⟩ := hy
  rw [amount_finite, amount_finite]
  exact Binary64.roundedFrom_mul m e n f

theorem UpTo.roundedFrom_add (hx : UpTo bound x) (hy : UpTo other y) :
    RoundedFrom (x.amount + y.amount) (x.add y) := by
  obtain ⟨m, e, rfl, -⟩ := hx
  obtain ⟨n, f, rfl, -⟩ := hy
  rw [amount_finite, amount_finite]
  exact Binary64.roundedFrom_add m e n f

theorem UpTo.truncate_eq (h : UpTo bound x) : x.truncate = .ok (⌊x.amount⌋₊ : Int) := by
  obtain ⟨m, e, rfl, -⟩ := h
  rw [amount_finite]
  exact truncate_finite m e

theorem RoundedFrom.nonneg (h : RoundedFrom exact x) : 0 ≤ exact := by
  obtain ⟨num, den, -, rfl, -⟩ := h
  positivity

/-- **The grid of an amount.**  It is rounded to a whole number of steps, of which it has fewer
than `2 ^ 53`, and no fewer than `2 ^ 52` unless the grid is the finest one. -/
theorem RoundedFrom.exists_grid (rounded : RoundedFrom exact x) (finite : UpTo bound x)
    (positive : 0 < exact) :
    ∃ (e : Int) (num den : Nat), 0 < den ∧ exact = num / den * 2 ^ e ∧
      x.amount = roundHalfEven num den * 2 ^ e ∧ leastExponent ≤ e ∧
      exact < 2 ^ (53 + e) ∧ (leastExponent < e → 2 ^ (52 + e) ≤ exact) := by
  obtain ⟨num, den, den_pos, rfl, rfl⟩ := rounded
  have num_pos : 0 < num := by
    by_contra none
    rw [Nat.eq_zero_of_not_pos none, Nat.cast_zero, zero_div] at positive
    exact positive.false
  obtain ⟨scaled, quotient⟩ := scaleDown_spec num den_pos (gridExponent num den)
  refine ⟨gridExponent num den, (scaleDown num den (gridExponent num den)).1, _, scaled, ?_, ?_,
    le_max_right .., lt_two_zpow_gridExponent den_pos, two_zpow_gridExponent_le num_pos den_pos⟩
  · rw [quotient, div_mul_cancel₀ _ (by positivity)]
  · obtain ⟨m, e, carried, -⟩ := finite
    rw [ofQuotient_eq_carry num_pos.ne'] at carried ⊢
    rw [carried, amount_finite, amount_of_carry carried]
    rfl

/-- **Rounding does not fall below a bound** that is a binary64 number itself. -/
theorem RoundedFrom.le_amount (rounded : RoundedFrom exact x) (finite : UpTo bound x)
    (h : b * 2 ^ t ≤ exact) (significand : b < 2 ^ 53) (least : leastExponent ≤ t) :
    b * 2 ^ t ≤ x.amount := by
  rcases rounded.nonneg.eq_or_lt with zero | positive
  · exact (h.trans_eq zero.symm).trans finite.amount_nonneg
  obtain ⟨e, num, den, den_pos, rfl, same, -, -, large⟩ := rounded.exists_grid finite positive
  have den' : (0 : ℚ) < den := by exact_mod_cast den_pos
  rw [same]
  rcases le_or_gt e t with coarse | fine
  · obtain ⟨k, rfl⟩ := Int.le.dest coarse
    have steps : ((b * 2 ^ k : Nat) : ℚ) * 2 ^ e = b * 2 ^ (e + k) := by
      rw [zpow_add₀ two_ne_zero, zpow_natCast]
      push_cast
      ring
    rw [← steps] at h ⊢
    have le : ((b * 2 ^ k : Nat) : ℚ) ≤ num / den := le_of_mul_le_mul_right h (by positivity)
    rw [le_div_iff₀ den'] at le
    have reached := le_roundHalfEven_of_le den_pos (by exact_mod_cast le)
    gcongr
  · -- The bound is below every amount on this grid.
    have enough := large (by omega)
    have le : ((2 ^ 52 : Nat) : ℚ) ≤ num / den := by
      rw [zpow_add₀ two_ne_zero] at enough
      have := le_of_mul_le_mul_right enough (by positivity)
      exact_mod_cast this
    rw [le_div_iff₀ den'] at le
    have reached := le_roundHalfEven_of_le den_pos (by exact_mod_cast le)
    calc (b : ℚ) * 2 ^ t ≤ 2 ^ 53 * 2 ^ t := by
          gcongr
          exact_mod_cast significand.le
      _ ≤ 2 ^ 52 * 2 ^ e := all_steps_le fine
      _ ≤ roundHalfEven num den * 2 ^ e := by
          gcongr
          exact_mod_cast reached

/-- A natural number that is at most `2 ^ 53 - 1` is itself as a binary64 number. -/
theorem exists_ofInt_amount {n : Nat} (small : n < 2 ^ 53) :
    ∃ x, ofInt n = .ok x ∧ UpTo n x ∧ x.amount = n := by
  obtain ⟨x, whole, bounded⟩ := upTo_ofInt small
  have low := (roundedFrom_ofInt whole).le_amount bounded (b := n) (t := 0) (by simp) small
    (by decide)
  rw [zpow_zero, mul_one] at low
  exact ⟨x, whole, bounded, le_antisymm bounded.amount_le low⟩

/-! ### The middle between two neighbours -/

/-- The middle between `b * 2 ^ t` and `(b + 1) * 2 ^ t`. -/
def middle (b : Nat) (t : Int) : ℚ := (2 * b + 1) * 2 ^ (t - 1)

theorem middle_eq (b : Nat) (t : Int) : middle b t = (2 * b + 1 : Nat) / 2 * 2 ^ t := by
  rw [middle, zpow_sub_one₀ two_ne_zero]
  push_cast
  ring

/-- On its own grid an amount is compared with the middle by its steps. -/
theorem steps_middle (num : Nat) {den : Nat} (den_pos : 0 < den) (b : Nat) (t : Int) :
    (num / den * 2 ^ t < middle b t ↔ 2 * num < (2 * b + 1) * den) ∧
      (num / den * 2 ^ t = middle b t ↔ 2 * num = (2 * b + 1) * den) ∧
      (middle b t < num / den * 2 ^ t ↔ (2 * b + 1) * den < 2 * num) := by
  have den' : (0 : ℚ) < den := by exact_mod_cast den_pos
  have step : (0 : ℚ) < 2 ^ t := by positivity
  have swap : (num : ℚ) * 2 = (2 * num : Nat) := by
    push_cast
    ring
  rw [middle_eq, mul_lt_mul_iff_left₀ step, mul_lt_mul_iff_left₀ step,
    mul_left_inj' step.ne', div_lt_div_iff₀ den' two_pos, div_lt_div_iff₀ two_pos den',
    div_eq_div_iff den'.ne' two_ne_zero, swap]
  exact ⟨by exact_mod_cast Iff.rfl, by exact_mod_cast Iff.rfl, by exact_mod_cast Iff.rfl⟩

/-- **Below the middle,** or at it where the lower neighbour is even, rounding does not pass the
lower neighbour. -/
theorem RoundedFrom.amount_le (rounded : RoundedFrom exact x) (finite : UpTo bound x)
    (h : exact < middle b t ∨ exact = middle b t ∧ b % 2 = 0) (normal : 2 ^ 52 ≤ b)
    (significand : b < 2 ^ 53) (least : leastExponent ≤ t) (greatest : t < greatestExponent) :
    x.amount ≤ b * 2 ^ t := by
  rcases le_or_gt exact (b * 2 ^ t) with le | above
  · exact (rounded.upTo le significand least greatest).amount_le
  have low : (2 : ℚ) ^ (52 + t) ≤ b * 2 ^ t := by
    rw [zpow_add₀ two_ne_zero]
    gcongr
    exact_mod_cast normal
  have high : exact < 2 ^ (53 + t) := by
    have le : exact ≤ middle b t := h.elim le_of_lt fun h => h.1.le
    refine le.trans_lt ?_
    rw [middle_eq, zpow_add₀ two_ne_zero]
    gcongr
    rw [div_lt_iff₀ two_pos]
    exact_mod_cast (by omega : 2 * b + 1 < 2 ^ 53 * 2)
  have positive : 0 < exact := lt_trans (by positivity) (low.trans_lt above)
  obtain ⟨e, num, den, den_pos, rfl, same, finest, small, large⟩ :=
    rounded.exists_grid finite positive
  -- The amount is on the grid of the bound.
  have coarse : t ≤ e := by
    have := lt_of_two_zpow_lt ((low.trans_lt above).trans small)
    omega
  have fine : e ≤ t := by
    rcases finest.eq_or_lt with bottom | beyond
    · omega
    · have := lt_of_two_zpow_lt ((large beyond).trans_lt high)
      omega
  obtain rfl : e = t := by omega
  obtain ⟨lt, eq, -⟩ := steps_middle num den_pos b e
  rw [lt, eq] at h
  have steps := roundHalfEven_le_of_half den_pos h
  rw [same]
  gcongr

/-- **Above the middle,** or at it where the lower neighbour is odd, rounding comes to the upper
neighbour. -/
theorem RoundedFrom.succ_le_amount (rounded : RoundedFrom exact x) (finite : UpTo bound x)
    (h : middle b t < exact ∨ middle b t = exact ∧ b % 2 = 1) (normal : 2 ^ 52 ≤ b)
    (significand : b < 2 ^ 53) (least : leastExponent ≤ t) :
    ((b + 1 : Nat) : ℚ) * 2 ^ t ≤ x.amount := by
  have low : (2 : ℚ) ^ (52 + t) < exact := by
    have le : middle b t ≤ exact := h.elim le_of_lt fun h => h.1.le
    refine lt_of_lt_of_le ?_ le
    rw [middle_eq, zpow_add₀ two_ne_zero]
    gcongr
    rw [lt_div_iff₀ two_pos]
    exact_mod_cast (by omega : 2 ^ 52 * 2 < 2 * b + 1)
  have positive : 0 < exact := lt_trans (by positivity) low
  obtain ⟨e, num, den, den_pos, whole, same, finest, small, large⟩ :=
    rounded.exists_grid finite positive
  have coarse : t ≤ e := by
    have := lt_of_two_zpow_lt (low.trans small)
    omega
  rcases coarse.eq_or_lt with rfl | beyond
  · obtain ⟨-, eq, gt⟩ := steps_middle num den_pos b t
    rw [whole, gt, eq_comm, eq, eq_comm] at h
    have steps := lt_roundHalfEven_of_half h den_pos
    rw [same]
    gcongr
    exact steps
  · -- On a coarser grid the amount is beyond both neighbours.
    have enough := large (by omega)
    rw [zpow_add₀ two_ne_zero] at enough
    have reached := rounded.le_amount finite (b := 2 ^ 52) (by exact_mod_cast enough)
      (by norm_num) finest
    push_cast at reached
    calc ((b + 1 : Nat) : ℚ) * 2 ^ t ≤ 2 ^ 53 * 2 ^ t := by
          gcongr
          exact_mod_cast significand
      _ ≤ 2 ^ 52 * 2 ^ e := all_steps_le beyond
      _ ≤ x.amount := reached

/-- **What rounding changes** in an amount up to 1. -/
theorem RoundedFrom.error (rounded : RoundedFrom exact x) (finite : UpTo bound x)
    (h : exact ≤ 1) : |x.amount - exact| ≤ 2 ^ (-54 : Int) := by
  have exactly : ∀ n : Nat, n ≤ 1 → exact = n → x.amount = exact := by
    rintro n le rfl
    have above := rounded.upTo (b := n) (t := 0) (by simp) (by omega) (by decide) (by decide)
    have below := rounded.le_amount finite (b := n) (t := 0) (by simp) (by omega) (by decide)
    rw [zpow_zero, mul_one] at above below
    exact le_antisymm above.amount_le below
  rcases rounded.nonneg.eq_or_lt with zero | positive
  · rw [exactly 0 (by omega) (by simp [zero]), sub_self, abs_zero]
    positivity
  rcases h.eq_or_lt with one | less
  · rw [exactly 1 le_rfl (by simp [one]), sub_self, abs_zero]
    positivity
  obtain ⟨e, num, den, den_pos, rfl, same, finest, small, large⟩ :=
    rounded.exists_grid finite positive
  have fine : e ≤ -53 := by
    rcases finest.eq_or_lt with bottom | beyond
    · rw [← bottom]
      decide
    · have := lt_of_two_zpow_lt
        (((large beyond).trans_lt less).trans_eq (zpow_zero 2).symm)
      omega
  rw [same, ← sub_mul, abs_mul, abs_of_pos (by positivity : (0 : ℚ) < 2 ^ e)]
  calc |(roundHalfEven num den : ℚ) - num / den| * 2 ^ e ≤ 1 / 2 * 2 ^ (-53 : Int) := by
        gcongr
        · exact roundHalfEven_error num den_pos
        · exact one_le_two
    _ = 2 ^ (-54 : Int) := by norm_num

end Binary64
end Recital
