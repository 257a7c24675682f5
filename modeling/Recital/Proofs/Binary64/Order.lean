/-
# Rounding keeps the order

Of two quotients the greater one is never rounded to the lesser number.  A quotient is
rounded to a whole number of steps on the grid of its magnitude, and there are two cases:

| grids | why the order is kept |
| --- | --- |
| the same | rounding to a whole number keeps the order (`roundHalfEven_mono`) |
| that of the greater quotient is coarser | a power of two, `2 ^ 53` steps of the finer grid, lies between |

`AtMost x y` says of two numbers, neither of them negative, that the first is no greater than
the second; each operation has a lemma that carries the order through it.
-/

import Recital.Proofs.Binary64.Bound

namespace Recital

/-! ### Whole numbers -/

theorem le_roundHalfEven (num den : Nat) : num / den ≤ roundHalfEven num den := by
  unfold roundHalfEven
  dsimp only
  split_ifs <;> omega

theorem roundHalfEven_le_succ (num den : Nat) : roundHalfEven num den ≤ num / den + 1 := by
  unfold roundHalfEven
  dsimp only
  split_ifs <;> omega

/-- **Rounding to a whole number keeps the order.** -/
theorem roundHalfEven_mono {num den num' den' : Nat} (positive : 0 < den) (positive' : 0 < den')
    (h : num * den' ≤ num' * den) : roundHalfEven num den ≤ roundHalfEven num' den' := by
  have whole : num / den ≤ num' / den' := by
    rw [Nat.le_div_iff_mul_le positive']
    refine Nat.le_of_mul_le_mul_right ?_ positive
    calc num / den * den' * den = num / den * den * den' := Nat.mul_right_comm ..
      _ ≤ num * den' := Nat.mul_le_mul_right _ (Nat.div_mul_le_self ..)
      _ ≤ num' * den := h
  rcases Nat.lt_or_eq_of_le whole with below | same
  · exact (roundHalfEven_le_succ ..).trans (below.trans_le (le_roundHalfEven ..))
  · -- With the same whole part, the order is that of what is left.
    have left : num % den * den' ≤ num' % den' * den := by
      have split := Nat.div_add_mod num den
      have split' := Nat.div_add_mod num' den'
      rw [← split, ← split', same, Nat.add_mul, Nat.add_mul,
        Nat.mul_right_comm den, Nat.mul_comm den den', Nat.mul_right_comm den'] at h
      exact Nat.le_of_add_le_add_left h
    have half : den ≤ 2 * (num % den) → den' ≤ 2 * (num' % den') := by
      intro h
      refine Nat.le_of_mul_le_mul_right ?_ positive
      nlinarith
    have more : den < 2 * (num % den) → den' < 2 * (num' % den') := by
      intro h
      refine Nat.lt_of_mul_lt_mul_right (a := den) ?_
      nlinarith
    unfold roundHalfEven
    dsimp only
    rw [same]
    split_ifs <;> omega

namespace Binary64

/-! ### Quotients -/

/-- A quotient is below the double of its magnitude. -/
theorem lt_two_zpow_binaryMagnitude {num den : Nat} (den_pos : 0 < den) :
    (num : ℚ) / den < 2 ^ (binaryMagnitude num den + 1) := by
  obtain ⟨positive, quotient⟩ :=
    scaleDown_spec num den_pos ((num.log2 : Int) - (den.log2 : Int))
  have den' : (0 : ℚ) < den := by exact_mod_cast den_pos
  rw [binaryMagnitude]
  dsimp only
  split
  · have above : (num : ℚ) < 2 ^ (num.log2 + 1) := by exact_mod_cast Nat.lt_log2_self
    have below : (2 : ℚ) ^ den.log2 ≤ den := by exact_mod_cast Nat.log2_self_le den_pos.ne'
    rw [div_lt_iff₀ den']
    calc (num : ℚ) < 2 ^ (num.log2 + 1) := above
      _ = 2 ^ ((num.log2 : Int) - den.log2 + 1) * 2 ^ den.log2 := by
        rw [← zpow_natCast, ← zpow_natCast, ← zpow_add₀ two_ne_zero]
        congr 1
        push_cast
        ring
      _ ≤ 2 ^ ((num.log2 : Int) - den.log2 + 1) * den := by gcongr
  · rename_i lt
    have lt_one : (num : ℚ) / den / 2 ^ ((num.log2 : Int) - (den.log2 : Int)) < 1 := by
      rw [← quotient, div_lt_one (by exact_mod_cast positive)]
      exact_mod_cast Nat.lt_of_not_le lt
    rw [div_lt_one (by positivity)] at lt_one
    rwa [sub_add_cancel]

/-- All steps of a grid are no more than half the steps of a coarser one. -/
theorem all_steps_le {s t : Int} (finer : s < t) : (2 : ℚ) ^ 53 * 2 ^ s ≤ 2 ^ 52 * 2 ^ t :=
  calc (2 : ℚ) ^ 53 * 2 ^ s = 2 ^ 52 * 2 ^ (s + 1) := by
        rw [zpow_add_one₀ two_ne_zero]
        ring
    _ ≤ 2 ^ 52 * 2 ^ t := by
        gcongr
        · exact one_le_two
        · exact finer

/-- The exponent of the grid that a quotient is rounded to. -/
def gridExponent (num den : Nat) : Int :=
  max (binaryMagnitude num den - (precision - 1 : Nat)) leastExponent

/-- The number of steps that a quotient is rounded to on its grid. -/
def gridSteps (num den : Nat) : Nat :=
  let scaled := scaleDown num den (gridExponent num den)
  roundHalfEven scaled.1 scaled.2

theorem ofQuotient_eq_carry {num : Nat} (num_ne : num ≠ 0) (negative : Bool) (den : Nat) :
    ofQuotient negative num den = carry negative (gridSteps num den) (gridExponent num den) := by
  rw [ofQuotient, if_neg num_ne]
  rfl

section Grids

variable {num den num' den' : Nat}

/-- The greater quotient has the coarser grid. -/
theorem gridExponent_mono (num_pos : 0 < num) (den_pos : 0 < den) (den_pos' : 0 < den')
    (h : (num : ℚ) / den ≤ num' / den') : gridExponent num den ≤ gridExponent num' den' := by
  have below : (2 : ℚ) ^ binaryMagnitude num den < 2 ^ (binaryMagnitude num' den' + 1) :=
    calc (2 : ℚ) ^ binaryMagnitude num den ≤ num / den :=
          two_zpow_binaryMagnitude_le num_pos den_pos
      _ ≤ num' / den' := h
      _ < 2 ^ (binaryMagnitude num' den' + 1) := lt_two_zpow_binaryMagnitude den_pos'
  rw [zpow_lt_zpow_iff_right₀ one_lt_two] at below
  unfold gridExponent
  omega

/-- A quotient is less than `2 ^ 53` steps of its grid. -/
theorem lt_two_zpow_gridExponent (den_pos : 0 < den) :
    (num : ℚ) / den < 2 ^ (53 + gridExponent num den) := by
  refine (lt_two_zpow_binaryMagnitude den_pos).trans_le ?_
  refine zpow_le_zpow_right₀ one_le_two ?_
  have : (precision - 1 : Nat) = 52 := rfl
  unfold gridExponent
  omega

/-- On a grid that is not the finest, a quotient is `2 ^ 52` steps or more. -/
theorem two_zpow_gridExponent_le (num_pos : 0 < num) (den_pos : 0 < den)
    (coarse : leastExponent < gridExponent num den) :
    2 ^ (52 + gridExponent num den) ≤ (num : ℚ) / den := by
  refine le_trans (zpow_le_zpow_right₀ one_le_two ?_)
    (two_zpow_binaryMagnitude_le num_pos den_pos)
  have : (precision - 1 : Nat) = 52 := rfl
  unfold gridExponent at coarse ⊢
  omega

/-- A quotient is rounded to at most `2 ^ 53` steps. -/
theorem gridSteps_le (den_pos : 0 < den) : gridSteps num den ≤ 2 ^ 53 := by
  obtain ⟨positive, quotient⟩ := scaleDown_spec num den_pos (gridExponent num den)
  refine roundHalfEven_le positive ?_
  have le : ((scaleDown num den (gridExponent num den)).1 : ℚ) /
      (scaleDown num den (gridExponent num den)).2 ≤ (2 ^ 53 : Nat) := by
    rw [quotient, div_le_iff₀ (by positivity)]
    calc (num : ℚ) / den ≤ 2 ^ (53 + gridExponent num den) := (lt_two_zpow_gridExponent den_pos).le
      _ = (2 ^ 53 : Nat) * 2 ^ gridExponent num den := by
          rw [zpow_add₀ two_ne_zero]
          norm_num
  rw [div_le_iff₀ (by exact_mod_cast positive)] at le
  exact_mod_cast le

/-- On a grid that is not the finest, a quotient is rounded to `2 ^ 52` steps or more. -/
theorem le_gridSteps (num_pos : 0 < num) (den_pos : 0 < den)
    (coarse : leastExponent < gridExponent num den) : 2 ^ 52 ≤ gridSteps num den := by
  obtain ⟨positive, quotient⟩ := scaleDown_spec num den_pos (gridExponent num den)
  refine le_trans ?_ (le_roundHalfEven ..)
  rw [Nat.le_div_iff_mul_le positive]
  have le : ((2 ^ 52 : Nat) : ℚ) ≤ (scaleDown num den (gridExponent num den)).1 /
      (scaleDown num den (gridExponent num den)).2 := by
    rw [quotient, le_div_iff₀ (by positivity)]
    calc ((2 ^ 52 : Nat) : ℚ) * 2 ^ gridExponent num den = 2 ^ (52 + gridExponent num den) := by
          rw [zpow_add₀ two_ne_zero]
          norm_num
      _ ≤ num / den := two_zpow_gridExponent_le num_pos den_pos coarse
  rw [le_div_iff₀ (by exact_mod_cast positive)] at le
  exact_mod_cast le

/-- On one grid the greater quotient is rounded to more steps. -/
theorem gridSteps_mono (den_pos : 0 < den) (den_pos' : 0 < den')
    (same : gridExponent num den = gridExponent num' den') (h : (num : ℚ) / den ≤ num' / den') :
    gridSteps num den ≤ gridSteps num' den' := by
  obtain ⟨positive, quotient⟩ := scaleDown_spec num den_pos (gridExponent num den)
  obtain ⟨positive', quotient'⟩ := scaleDown_spec num' den_pos' (gridExponent num' den')
  refine roundHalfEven_mono positive positive' ?_
  have le : ((scaleDown num den (gridExponent num den)).1 : ℚ) /
        (scaleDown num den (gridExponent num den)).2 ≤
      (scaleDown num' den' (gridExponent num' den')).1 /
        (scaleDown num' den' (gridExponent num' den')).2 := by
    rw [quotient, quotient', same]
    gcongr
  rw [div_le_div_iff₀ (by exact_mod_cast positive) (by exact_mod_cast positive')] at le
  exact_mod_cast le

/-- **The greater quotient is not rounded to the lesser amount.** -/
theorem grid_mono (num_pos : 0 < num) (den_pos : 0 < den) (num_pos' : 0 < num')
    (den_pos' : 0 < den') (h : (num : ℚ) / den ≤ num' / den') :
    (gridSteps num den : ℚ) * 2 ^ gridExponent num den ≤
      gridSteps num' den' * 2 ^ gridExponent num' den' := by
  rcases (gridExponent_mono num_pos den_pos den_pos' h).lt_or_eq with finer | same
  · have coarse : leastExponent < gridExponent num' den' :=
      lt_of_le_of_lt (le_max_right ..) finer
    have steps : (gridSteps num den : ℚ) ≤ 2 ^ 53 := by exact_mod_cast gridSteps_le den_pos
    have steps' : (2 : ℚ) ^ 52 ≤ gridSteps num' den' := by
      exact_mod_cast le_gridSteps num_pos' den_pos' coarse
    calc (gridSteps num den : ℚ) * 2 ^ gridExponent num den
        ≤ 2 ^ 53 * 2 ^ gridExponent num den := by gcongr
      _ ≤ 2 ^ 52 * 2 ^ gridExponent num' den' := all_steps_le finer
      _ ≤ gridSteps num' den' * 2 ^ gridExponent num' den' := by gcongr
  · rw [same]
    have steps := gridSteps_mono den_pos den_pos' same h
    gcongr

end Grids

/-! ### Numbers -/

/-- Whether a number is no greater than another one; neither is negative. -/
def AtMost (x y : Binary64) : Prop :=
  ∃ (n : Nat) (f : Int), y = .finite false n f ∧ UpTo (n * 2 ^ f) x

variable {bound other exact exact' : ℚ} {x y x' y' : Binary64}

/-- A finite number that is carried over stands for the same amount. -/
theorem amount_of_carry {negative sign : Bool} {m n : Nat} {e f : Int}
    (h : carry negative m e = .finite sign n f) : (n : ℚ) * 2 ^ f = m * 2 ^ e := by
  rcases carry_cases negative m e with ⟨infinite, -⟩ | ⟨n', f', carried, same⟩
  · rw [infinite] at h
    cases h
  · rw [carried] at h
    cases h
    exact same

/-- What is no greater has the same bounds. -/
theorem AtMost.upTo (h : AtMost x y) (bounded : UpTo bound y) : UpTo bound x := by
  obtain ⟨n, f, rfl, m, e, rfl, le⟩ := h
  obtain ⟨_, _, same, le'⟩ := bounded
  cases same
  exact ⟨m, e, rfl, le.trans le'⟩

/-- **Rounding keeps the order,** where it does not overflow. -/
theorem RoundedFrom.atMost (hx : RoundedFrom exact x) (hy : RoundedFrom exact' y)
    (h : exact ≤ exact') (finite : UpTo bound x) (finite' : UpTo other y) : AtMost x y := by
  obtain ⟨num, den, den_pos, rfl, rfl⟩ := hx
  obtain ⟨num', den', den_pos', rfl, rfl⟩ := hy
  obtain ⟨m, e, rounded, -⟩ := finite
  obtain ⟨n, f, rounded', -⟩ := finite'
  refine ⟨n, f, rounded', m, e, rounded, ?_⟩
  rcases Nat.eq_zero_or_pos num with rfl | num_pos
  · obtain ⟨-, rfl, -⟩ := Binary64.finite.inj rounded
    rw [Nat.cast_zero, zero_mul]
    positivity
  · have num_pos' : 0 < num' := by
      have positive : (0 : ℚ) < num' / den' := lt_of_lt_of_le (by positivity) h
      by_contra none
      rw [Nat.eq_zero_of_not_pos none, Nat.cast_zero, zero_div] at positive
      exact positive.false
    rw [ofQuotient_eq_carry num_pos.ne'] at rounded
    rw [ofQuotient_eq_carry num_pos'.ne'] at rounded'
    rw [amount_of_carry rounded, amount_of_carry rounded']
    exact grid_mono num_pos den_pos num_pos' den_pos' h

/-- The whole numbers and their binary64 numbers are in the same order. -/
theorem exists_ofInt_le {m n : Nat} (le : m ≤ n) (small : n < 2 ^ 53) :
    ∃ x y, ofInt m = .ok x ∧ ofInt n = .ok y ∧ AtMost x y ∧ UpTo n y := by
  obtain ⟨x, whole, bounded⟩ := upTo_ofInt (le.trans_lt small)
  obtain ⟨y, whole', bounded'⟩ := upTo_ofInt small
  exact ⟨x, y, whole, whole', (roundedFrom_ofInt whole).atMost (roundedFrom_ofInt whole')
    (by exact_mod_cast le) bounded bounded', bounded'⟩

/-- **Ratios** to the same whole keep the order of their parts. -/
theorem exists_ofRatio_le {k l n : Nat} (le : k ≤ l) (le' : l ≤ n) (positive : 0 < n) :
    ∃ x y, ofRatio k n = .ok x ∧ ofRatio l n = .ok y ∧ AtMost x y ∧ UpTo 1 y := by
  obtain ⟨x, ratio, bounded⟩ := upTo_ofRatio positive (le.trans le')
  obtain ⟨y, ratio', bounded'⟩ := upTo_ofRatio positive le'
  refine ⟨x, y, ratio, ratio', ?_, bounded'⟩
  refine (roundedFrom_ofRatio positive ratio).atMost (roundedFrom_ofRatio positive ratio') ?_
    bounded bounded'
  gcongr

/-- **A product** is no greater than one of greater factors. -/
theorem AtMost.mul {b : Nat} {t : Int} (hx : AtMost x x') (hy : AtMost y y')
    (first : UpTo (b * 2 ^ t) x') (second : UpTo 1 y') (significand : b < 2 ^ 53)
    (least : leastExponent ≤ t) (greatest : t < greatestExponent) :
    AtMost (x.mul y) (x'.mul y') := by
  have bounded := (hx.upTo first).mul (hy.upTo second) significand least greatest
  have bounded' := first.mul second significand least greatest
  obtain ⟨m', e', rfl, m, e, rfl, le⟩ := hx
  obtain ⟨n', f', rfl, n, f, rfl, le'⟩ := hy
  refine (roundedFrom_mul m e n f).atMost (roundedFrom_mul m' e' n' f') ?_ bounded bounded'
  gcongr

/-- **A sum** is no greater than one of greater terms. -/
theorem AtMost.add {b : Nat} {t : Int} (hx : AtMost x x') (hy : AtMost y y')
    (first : UpTo bound x') (second : UpTo other y') (sum : bound + other ≤ b * 2 ^ t)
    (significand : b < 2 ^ 53) (least : leastExponent ≤ t) (greatest : t < greatestExponent) :
    AtMost (x.add y) (x'.add y') := by
  have bounded := (hx.upTo first).add (hy.upTo second) sum significand least greatest
  have bounded' := first.add second sum significand least greatest
  obtain ⟨m', e', rfl, m, e, rfl, le⟩ := hx
  obtain ⟨n', f', rfl, n, f, rfl, le'⟩ := hy
  exact (roundedFrom_add m e n f).atMost (roundedFrom_add m' e' n' f') (add_le_add le le')
    bounded bounded'

/-- **The whole parts** of numbers are in the order of the numbers. -/
theorem AtMost.truncate (h : AtMost x y) :
    ∃ m n : Nat, x.truncate = .ok (m : Int) ∧ y.truncate = .ok (n : Int) ∧ m ≤ n := by
  obtain ⟨n, f, rfl, m, e, rfl, le⟩ := h
  exact ⟨_, _, truncate_finite m e, truncate_finite n f, Nat.floor_mono le⟩

/-- **The nearest whole numbers** of numbers are in the order of the numbers. -/
theorem AtMost.round (h : AtMost x y) :
    ∃ m n : Nat, x.round = .ok (m : Int) ∧ y.round = .ok (n : Int) ∧ m ≤ n := by
  obtain ⟨n, f, rfl, m, e, rfl, le⟩ := h
  obtain ⟨positive, quotient⟩ := scaleDown_one_spec m e
  obtain ⟨positive', quotient'⟩ := scaleDown_one_spec n f
  refine ⟨_, _, rfl, rfl, roundHalfEven_mono positive positive' ?_⟩
  rw [← quotient, ← quotient',
    div_le_div_iff₀ (by exact_mod_cast positive) (by exact_mod_cast positive')] at le
  exact_mod_cast le

end Binary64
end Recital
