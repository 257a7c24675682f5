/-
# Halves of scaled volumes

A volume `v` that is scaled to `j` of `n` parts should come to `v * j / n` with a half going up.
But the quotient `j / n` is rounded before it is multiplied, then the product is rounded, and then
its sum with a half.  What the last two steps do is known exactly: the result is more than `h` for
the products

| `h` | products |
| --- | --- |
| 0 | above `1 / 2` less three quarters of a last place |
| more than 0 | from `h + 1 / 2` less half a last place on |

(`PassesHalf`, `scaleVolume_turns`).  The first step changes the product by at most `50 / 2 ^ 53`,
so only the half between the whole numbers around `v * j / n` may be on the wrong side; and with at
most `2 ^ 44` rounds only where `v * j / n` is that half.  Then it goes down if `j / n` was rounded
down by too much, as for 45 scaled to 7 of 10 parts (`unroll_volumes`).
-/

import Recital.Proofs.Binary64.Nearest
import Recital.Proofs.Instruction.Fading

namespace Recital

open Binary64 (RoundedFrom UpTo amount_finite middle)

/-- The last place of `h + 1 / 2` where it has 53 of them. -/
def lastPlace (h : Nat) : ℚ := 2 ^ (((2 * h + 1).log2 : Int) - 53)

theorem lastPlace_pos (h : Nat) : 0 < lastPlace h := by
  unfold lastPlace
  positivity

theorem lastPlace_le (h : Nat) : lastPlace h ≤ (2 * h + 1) / 2 ^ 53 := by
  have low : 2 ^ (2 * h + 1).log2 ≤ 2 * h + 1 := Nat.log2_self_le (by omega)
  have low' : (2 : ℚ) ^ (2 * h + 1).log2 ≤ 2 * h + 1 := by exact_mod_cast low
  rw [lastPlace, zpow_sub₀ two_ne_zero, zpow_natCast]
  exact div_le_div_of_nonneg_right low' (by positivity)

/-- Whether a product that is rounded, added to a half and rounded again comes to more than
`h`. -/
def PassesHalf (h : Nat) (product : ℚ) : Prop :=
  if h = 0 then 1 / 2 - 3 / 4 * lastPlace 0 < product
  else h + 1 / 2 - 1 / 2 * lastPlace h ≤ product

/-- No product is past a half by much before it is past it. -/
theorem PassesHalf.le {h : Nat} {product : ℚ} (passes : PassesHalf h product) :
    h + 1 / 2 - (2 * h + 1) / 2 ^ 53 ≤ product := by
  have place := lastPlace_le h
  have positive := lastPlace_pos h
  unfold PassesHalf at passes
  split at passes
  · subst h
    push_cast at *
    linarith
  · linarith

theorem passesHalf_of_le {h : Nat} {product : ℚ} (le : h + 1 / 2 ≤ product) : PassesHalf h product := by
  have positive := lastPlace_pos h
  unfold PassesHalf
  split
  · subst h
    push_cast at *
    linarith
  · linarith

/-- The quotient of two natural numbers, rounded to the nearest one, a half going up. -/
def halfUp (num den : Nat) : Nat := (2 * num + den) / (2 * den)

theorem lt_halfUp_iff {num den h : Nat} (positive : 0 < den) :
    h < halfUp num den ↔ (2 * h + 1) * den ≤ 2 * num := by
  have twice : (h + 1) * (2 * den) = (2 * h + 1) * den + den := by ring
  rw [halfUp, ← Nat.succ_le_iff, Nat.le_div_iff_mul_le (by omega), Nat.succ_eq_add_one, twice]
  omega

/-! ### One half -/

section Half

variable {h : Nat} (positive : 0 < h) (small : h < 2 ^ 51)

include positive small

/-- A half has more than `2 ^ 52` last places, an even number of them, and the next whole number
no more than `2 ^ 53`. -/
theorem exists_places :
    ∃ (u : Nat) (t : Int), (2 : ℚ) ^ t = lastPlace h ∧ 2 ^ (u + 1) * (2 : ℚ) ^ t = 1 / 2 ∧
      -53 ≤ t ∧ t < 0 ∧ 2 ^ 52 < (2 * h + 1) * 2 ^ (u + 1) ∧
      (2 * h + 2) * 2 ^ (u + 1) ≤ 2 ^ 53 := by
  have low : 2 ^ (2 * h + 1).log2 ≤ 2 * h + 1 := Nat.log2_self_le (by omega)
  have high : 2 * h + 1 < 2 ^ ((2 * h + 1).log2 + 1) := Nat.lt_log2_self
  have most : (2 * h + 1).log2 < 52 := (Nat.log2_lt (by omega)).2 (by omega)
  have least : 1 ≤ (2 * h + 1).log2 := (Nat.le_log2 (by omega)).2 (by omega)
  unfold lastPlace
  generalize (2 * h + 1).log2 = l at *
  obtain ⟨u, sum⟩ : ∃ u, l + (u + 1) = 52 := ⟨51 - l, by omega⟩
  have full : 2 ^ l * 2 ^ (u + 1) = 2 ^ 52 := by rw [← Nat.pow_add, sum]
  -- The number of halves is odd, so it is neither of the powers of two around it.
  have twice : 2 ^ l = 2 * 2 ^ (l - 1) := by
    rw [← Nat.pow_succ', Nat.succ_eq_add_one, Nat.sub_add_cancel least]
  refine ⟨u, (l : Int) - 53, rfl, ?_, by omega, by omega, ?_, ?_⟩
  · have places : ((u + 1 : Nat) : Int) + ((l : Int) - 53) = -1 := by omega
    rw [← zpow_natCast, ← zpow_add₀ two_ne_zero, places]
    norm_num
  · calc 2 ^ 52 = 2 ^ l * 2 ^ (u + 1) := full.symm
      _ < (2 * h + 1) * 2 ^ (u + 1) := Nat.mul_lt_mul_of_pos_right (by omega) (by positivity)
  · calc (2 * h + 2) * 2 ^ (u + 1) ≤ 2 * 2 ^ l * 2 ^ (u + 1) :=
          Nat.mul_le_mul_right _ (by omega)
      _ = 2 * 2 ^ 52 := by rw [Nat.mul_assoc, full]
      _ = 2 ^ 53 := by norm_num

/-- The neighbours of a half that is not the first: a last place below it is an odd number of
last places, and a last place below the next whole number is a number as well. -/
theorem exists_below_half :
    ∃ (b c : Nat) (t : Int), 2 ^ 52 ≤ b ∧ b < 2 ^ 53 ∧ b % 2 = 1 ∧ c < 2 ^ 53 ∧ -53 ≤ t ∧
      t < 0 ∧ (2 : ℚ) ^ t = lastPlace h ∧ ((b + 1 : Nat) : ℚ) * 2 ^ t = h + 1 / 2 ∧
      ((c + 1 : Nat) : ℚ) * 2 ^ t = h + 1 := by
  obtain ⟨u, t, place, half, least, greatest, low, high⟩ := exists_places positive small
  have even : (2 * h + 1) * 2 ^ (u + 1) = 2 * ((2 * h + 1) * 2 ^ u) := by ring
  have next : (2 * h + 2) * 2 ^ (u + 1) = (2 * h + 1) * 2 ^ (u + 1) + 2 ^ (u + 1) := by ring
  have step : 0 < 2 ^ (u + 1) := by positivity
  refine ⟨(2 * h + 1) * 2 ^ (u + 1) - 1, (2 * h + 2) * 2 ^ (u + 1) - 1, t, by omega, by omega,
    by omega, by omega, least, greatest, place, ?_, ?_⟩
  · rw [Nat.sub_add_cancel (by omega)]
    push_cast
    rw [mul_assoc, half]
    ring
  · rw [Nat.sub_add_cancel (by omega)]
    push_cast
    rw [mul_assoc, half]
    ring

end Half

section Sums

variable {bound other exact : ℚ} {x y : Binary64} (product : RoundedFrom exact x)
  (finite : UpTo bound x) (sum : RoundedFrom (x.amount + 1 / 2) y) (finite' : UpTo other y)

include product finite sum finite'

/-- **The first half:** a product comes to 1 if it is beyond the middle between the second and
the first number below the half. -/
theorem one_le_sum_iff : 1 ≤ y.amount ↔ PassesHalf 0 exact := by
  have place : lastPlace 0 = 2 ^ (-53 : Int) := rfl
  rw [PassesHalf, if_pos rfl, place]
  have turn : middle (2 ^ 53 - 2) (-54) = 1 / 2 - 3 / 4 * 2 ^ (-53 : Int) := by
    norm_num [middle]
  rw [← turn]
  rcases lt_or_ge (middle (2 ^ 53 - 2) (-54)) exact with above | below
  · refine iff_of_true ?_ above
    have reached := product.succ_le_amount finite (.inl above) (by norm_num) (by norm_num)
      (by decide)
    have up : middle (2 ^ 53 - 1) (-53) ≤ x.amount + 1 / 2 := by
      refine le_trans ?_ (add_le_add_left reached _)
      norm_num [middle]
    have one := sum.succ_le_amount finite'
      (up.lt_or_eq.imp_right fun same => ⟨same, by norm_num⟩) (by norm_num) (by norm_num)
      (by decide)
    refine le_trans ?_ one
    norm_num
  · refine iff_of_false ?_ below.not_gt
    have kept := product.amount_le finite
      (below.lt_or_eq.imp_right fun same => ⟨same, by norm_num⟩) (by norm_num) (by norm_num)
      (by decide) (by decide)
    have down : x.amount + 1 / 2 ≤ (2 ^ 53 - 1 : Nat) * 2 ^ (-53 : Int) := by
      refine (add_le_add_left kept _).trans ?_
      norm_num
    have less := (sum.upTo down (by norm_num) (by decide) (by decide)).amount_le
    refine (less.trans_lt ?_).not_ge
    norm_num

/-- **Any other half:** a product comes to more if it is no more than half a last place below
the half. -/
theorem succ_le_sum_iff {h : Nat} (positive : 0 < h) (small : h < 2 ^ 51) :
    (h + 1 : ℚ) ≤ y.amount ↔ PassesHalf h exact := by
  obtain ⟨b, c, t, normal, significand, odd, significand', least, greatest, place, half, next⟩ :=
    exists_below_half positive small
  have low : Binary64.leastExponent ≤ t := by
    unfold Binary64.leastExponent
    omega
  have high : t < Binary64.greatestExponent := by
    unfold Binary64.greatestExponent
    omega
  have turn : middle b t = h + 1 / 2 - 1 / 2 * lastPlace h := by
    rw [← half, ← place, Binary64.middle_eq]
    push_cast
    ring
  rw [PassesHalf, if_neg positive.ne', ← turn]
  rcases le_or_gt (middle b t) exact with above | below
  · refine iff_of_true ?_ above
    have reached := product.succ_le_amount finite
      (above.lt_or_eq.imp_right fun same => ⟨same, odd⟩) normal significand low
    have whole := sum.le_amount finite' (b := h + 1) (t := 0) ?_ (by omega) (by decide)
    · simpa using whole
    · rw [half] at reached
      push_cast
      linarith
  · refine iff_of_false ?_ below.not_ge
    have kept := product.amount_le finite (.inl below) normal significand low high
    have down : x.amount + 1 / 2 ≤ c * 2 ^ t := by
      push_cast at half next
      linarith
    have less := (sum.upTo down significand' low high).amount_le
    have step : (0 : ℚ) < 2 ^ t := by positivity
    push_cast at next
    linarith

end Sums

/-! ### Volumes -/

variable {factor : Binary64} {v r : Dial.Level .outputVolume} {parts count h : Nat}

theorem amount_half : Binary64.half.amount = 1 / 2 := by
  rw [Binary64.half, amount_finite, powerOfTwo_eq]
  norm_num

theorem product_le (upTo : UpTo 1 factor) (v : Dial.Level .outputVolume) :
    v.val * factor.amount ≤ 100 :=
  calc v.val * factor.amount ≤ 100 * 1 := by
        have level_le : (v.val : ℚ) ≤ 100 := by exact_mod_cast Nat.le_of_lt_succ v.isLt
        have factor_le := upTo.amount_le
        have nonneg := upTo.amount_nonneg
        gcongr
    _ = 100 := mul_one 100

/-- A scaled volume is the whole part of the rounded sum of the rounded product and a half. -/
theorem exists_sum (upTo : UpTo 1 factor) (v : Dial.Level .outputVolume) :
    ∃ x y, RoundedFrom (v.val * factor.amount) x ∧ UpTo ((100 : Nat) * 2 ^ (0 : Int)) x ∧
      RoundedFrom (x.amount + 1 / 2) y ∧ UpTo ((201 : Nat) * 2 ^ (-1 : Int)) y ∧
      scaleVolume v.val factor = .ok (⌊y.amount⌋₊ : Int) := by
  have v_le : v.val ≤ 100 := Nat.le_of_lt_succ v.isLt
  obtain ⟨x, whole, bounded, amount⟩ := Binary64.exists_ofInt_amount (show v.val < 2 ^ 53 by omega)
  have product := bounded.roundedFrom_mul upTo
  rw [amount] at product
  have product_upTo := product.upTo (b := 100) (t := 0) (by simpa using product_le upTo v)
    (by norm_num) (by decide) (by decide)
  have sum := product_upTo.roundedFrom_add Binary64.upTo_half
  rw [amount_half] at sum
  have sum_upTo := product_upTo.add Binary64.upTo_half (b := 201) (t := -1) (by norm_num)
    (by norm_num) (by decide) (by decide)
  refine ⟨_, _, product, product_upTo, sum, sum_upTo, ?_⟩
  rw [scaleVolume, whole]
  exact sum_upTo.truncate_eq

/-- **What a volume is scaled to** passes a half exactly if the product does. -/
theorem scaleVolume_turns (upTo : UpTo 1 factor) (v : Dial.Level .outputVolume) :
    ∃ r : Dial.Level .outputVolume, scaleVolume v.val factor = .ok (r.val : Int) ∧
      ∀ h, h < r.val ↔ PassesHalf h (v.val * factor.amount) := by
  obtain ⟨r, scales⟩ := exists_scaleVolume upTo v
  obtain ⟨x, y, product, product_upTo, sum, sum_upTo, truncated⟩ := exists_sum upTo v
  rw [scales] at truncated
  have same : r.val = ⌊y.amount⌋₊ := Int.ofNat.inj (Except.ok.inj truncated)
  refine ⟨r, scales, fun h => ?_⟩
  by_cases beyond : 100 ≤ h
  · have r_le : r.val ≤ 100 := Nat.le_of_lt_succ r.isLt
    refine iff_of_false (by omega) fun passes => ?_
    have reached := passes.le
    have most := product_le upTo v
    have large : (100 : ℚ) ≤ h := by exact_mod_cast beyond
    linarith
  rw [same, ← Nat.succ_le_iff, Nat.le_floor_iff sum_upTo.amount_nonneg, Nat.cast_succ]
  rcases Nat.eq_zero_or_pos h with rfl | positive
  · rw [Nat.cast_zero, zero_add]
    exact one_le_sum_iff product product_upTo sum sum_upTo
  · exact succ_le_sum_iff product product_upTo sum sum_upTo positive (by omega)

/-! ### Quotients -/

theorem le_halfUp (num den : Nat) : num / den ≤ halfUp num den :=
  calc num / den = 2 * num / (2 * den) := (Nat.mul_div_mul_left _ _ two_pos).symm
    _ ≤ halfUp num den := Nat.div_le_div_right (by omega)

theorem halfUp_le {den : Nat} (positive : 0 < den) (num : Nat) : halfUp num den ≤ num / den + 1 :=
  calc halfUp num den ≤ (2 * num + 2 * den) / (2 * den) := Nat.div_le_div_right (by omega)
    _ = num / den + 1 := by
      rw [Nat.add_div_right _ (by omega), Nat.mul_div_mul_left _ _ two_pos]

section Quotients

variable {num den : Nat} {product : ℚ} (positive : 0 < den) (le : num ≤ 100 * den)
  (near : |product - num / den| ≤ 50 / 2 ^ 53)

include positive le near

/-- Of the halves only the one after the whole part of a quotient may be passed by mistake. -/
theorem passesHalf_iff_of_ne (ne : h ≠ num / den) : PassesHalf h product ↔ h < num / den := by
  have den' : (0 : ℚ) < den := by exact_mod_cast positive
  obtain ⟨low, high⟩ := abs_le.1 near
  rcases Nat.lt_or_gt_of_ne ne with below | above
  · refine iff_of_true (passesHalf_of_le ?_) below
    have whole := (Nat.le_div_iff_mul_le positive).1 (Nat.succ_le_of_lt below)
    have whole' : (h + 1 : ℚ) ≤ num / den := by
      rw [le_div_iff₀ den']
      exact_mod_cast whole
    linarith
  · refine iff_of_false (fun passes => ?_) (by omega)
    have whole := (Nat.div_lt_iff_lt_mul positive).1 above
    have whole' : (num : ℚ) / den < h := by
      rw [div_lt_iff₀ den']
      exact_mod_cast whole
    have small : (num : ℚ) / den ≤ 100 := by
      rw [div_le_iff₀ den']
      exact_mod_cast le
    have reached := passes.le
    linarith

/-- A quotient of few parts that is below a half is so by more than what rounding changes. -/
theorem le_of_passesHalf (few : den ≤ 2 ^ 44) (passes : PassesHalf h product) :
    (2 * h + 1) * den ≤ 2 * num := by
  by_contra less
  have den' : (0 : ℚ) < den := by exact_mod_cast positive
  have few' : (den : ℚ) ≤ 2 ^ 44 := by exact_mod_cast few
  have below : (2 * num + 1 : ℚ) ≤ (2 * h + 1) * den := by exact_mod_cast Nat.lt_of_not_le less
  have apart : (num : ℚ) / den ≤ h + 1 / 2 - 1 / 2 ^ 45 := by
    rw [div_le_iff₀ den']
    linarith
  have small : (num : ℚ) / den ≤ 100 := by
    rw [div_le_iff₀ den']
    exact_mod_cast le
  have reached := passes.le
  obtain ⟨low, high⟩ := abs_le.1 near
  linarith

omit le in
/-- A quotient of few parts that is above a half is so by more than what rounding changes. -/
theorem passesHalf_of_lt (few : den ≤ 2 ^ 44) (lt : (2 * h + 1) * den < 2 * num) :
    PassesHalf h product := by
  have den' : (0 : ℚ) < den := by exact_mod_cast positive
  have few' : (den : ℚ) ≤ 2 ^ 44 := by exact_mod_cast few
  have above : ((2 * h + 1) * den + 1 : ℚ) ≤ 2 * num := by exact_mod_cast lt
  have apart : (h : ℚ) + 1 / 2 + 1 / 2 ^ 45 ≤ num / den := by
    rw [le_div_iff₀ den']
    linarith
  obtain ⟨low, high⟩ := abs_le.1 near
  exact passesHalf_of_le (by linarith)

section Result

variable {r : Nat} (turns : ∀ h, h < r ↔ PassesHalf h product)

include turns

theorem around_of_turns : num / den ≤ r ∧ r ≤ num / den + 1 := by
  have around : ∀ h, h ≠ num / den → (h < r ↔ h < num / den) := fun h ne =>
    (turns h).trans (passesHalf_iff_of_ne positive le near ne)
  have below := around r
  have above := around (num / den + 1) (by omega)
  omega

/-- A half goes up as it should if the product is on the right side of the one half that may be
passed by mistake. -/
theorem eq_halfUp_iff : r = halfUp num den ↔
    (PassesHalf (num / den) product ↔ (2 * (num / den) + 1) * den ≤ 2 * num) := by
  have around := around_of_turns positive le near turns
  have low := le_halfUp num den
  have high := halfUp_le positive num
  rw [← turns, ← lt_halfUp_iff positive]
  constructor
  · intro same
    rw [same]
  · intro same
    omega

theorem le_halfUp_of_few (few : den ≤ 2 ^ 44) : r ≤ halfUp num den := by
  by_contra more
  have passed := (turns (halfUp num den)).1 (Nat.lt_of_not_le more)
  have reached := le_of_passesHalf positive le near few passed
  rw [← lt_halfUp_iff positive] at reached
  exact lt_irrefl _ reached

/-- With few parts only a half may go the wrong way. -/
theorem eq_halfUp_iff_of_few (few : den ≤ 2 ^ 44) : r = halfUp num den ↔
    ∀ h, 2 * num = (2 * h + 1) * den → PassesHalf h product := by
  constructor
  · intro same h half
    rw [← turns, same, lt_halfUp_iff positive]
    exact half.ge
  · intro halves
    refine eq_of_forall_lt_iff fun h => ?_
    rw [turns, lt_halfUp_iff positive]
    refine ⟨le_of_passesHalf positive le near few, fun reached => ?_⟩
    rcases reached.lt_or_eq with above | half
    · exact passesHalf_of_lt positive near few above
    · exact halves h half.symm

end Result

end Quotients

/-! ### Parts -/

/-- The parts of a volume that are left in round `k`. -/
def Fade.partsLeft (fade : Fade) (k count : Nat) : Nat :=
  match fade with
  | .level => count
  | .fadeIn => k + 1
  | .fadeOut => count - k

theorem Fade.partsLeft_le (fade : Fade) {k count : Nat} (h : k < count) :
    fade.partsLeft k count ≤ count := by
  cases fade with
  | level => exact le_rfl
  | fadeIn => exact h
  | fadeOut => exact Nat.sub_le count k

theorem Fade.factor_eq (fade : Fade) {k count : Nat} (h : k < count) :
    fade.factor k count = Binary64.ofRatio (fade.partsLeft k count) count := by
  cases fade with
  | level => exact (Binary64.ofRatio_self (Nat.zero_lt_of_lt h)).symm
  | fadeIn => rfl
  | fadeOut => rw [Fade.factor, Fade.partsLeft, Nat.cast_sub h.le]

/-- Whether `r` is what a volume comes to that is scaled to parts of a count by a factor: that it
passes the halves that the product with the factor passes, and how that differs from the quotient
with a half going up. -/
structure ScaledTo (factor : Binary64) (parts count : Nat) (v r : Dial.Level .outputVolume) :
    Prop where
  scales : scaleVolume v.val factor = .ok (r.val : Int)
  turns : ∀ h, h < r.val ↔ PassesHalf h (v.val * factor.amount)
  around : v.val * parts / count ≤ r.val ∧ r.val ≤ v.val * parts / count + 1
  /-- Only the half after the whole part of the quotient matters. -/
  eq_iff : r.val = halfUp (v.val * parts) count ↔
    (PassesHalf (v.val * parts / count) (v.val * factor.amount) ↔
      (2 * (v.val * parts / count) + 1) * count ≤ 2 * (v.val * parts))
  /-- With few rounds it is never too much, and too little only where the quotient is a half. -/
  le_of_few : count ≤ 2 ^ 44 → r.val ≤ halfUp (v.val * parts) count
  eq_iff_of_few : count ≤ 2 ^ 44 → (r.val = halfUp (v.val * parts) count ↔
    ∀ h, 2 * (v.val * parts) = (2 * h + 1) * count → PassesHalf h (v.val * factor.amount))

/-- A factor that is rounded from a quotient up to 1 makes little difference to a product. -/
theorem abs_product_sub_le (positive : 0 < count) (le : parts ≤ count)
    (ratio : Binary64.ofRatio parts count = .ok factor) (upTo : UpTo 1 factor)
    (v : Dial.Level .outputVolume) :
    |v.val * factor.amount - (v.val * parts : Nat) / count| ≤ 50 / 2 ^ 53 := by
  have v_le : (v.val : ℚ) ≤ 100 := by exact_mod_cast Nat.le_of_lt_succ v.isLt
  have up_to_one : (parts : ℚ) / count ≤ 1 := by
    rw [div_le_one (by exact_mod_cast positive)]
    exact_mod_cast le
  have error := (Binary64.roundedFrom_ofRatio positive ratio).error upTo up_to_one
  calc |v.val * factor.amount - (v.val * parts : Nat) / count|
      = v.val * |factor.amount - parts / count| := by
        rw [Nat.cast_mul, mul_div_assoc, ← mul_sub, abs_mul, Nat.abs_cast]
    _ ≤ 100 * 2 ^ (-54 : Int) := by gcongr
    _ = 50 / 2 ^ 53 := by norm_num

theorem exists_scaledTo (positive : 0 < count) (le : parts ≤ count)
    (ratio : Binary64.ofRatio parts count = .ok factor) (upTo : UpTo 1 factor)
    (v : Dial.Level .outputVolume) : ∃ r, ScaledTo factor parts count v r := by
  obtain ⟨r, scales, turns⟩ := scaleVolume_turns upTo v
  have num_le : v.val * parts ≤ 100 * count := Nat.mul_le_mul (Nat.le_of_lt_succ v.isLt) le
  have near := abs_product_sub_le positive le ratio upTo v
  exact ⟨r, {
    scales
    turns
    around := around_of_turns positive num_le near turns
    eq_iff := eq_halfUp_iff positive num_le near turns
    le_of_few := le_halfUp_of_few positive num_le near turns
    eq_iff_of_few := eq_halfUp_iff_of_few positive num_le near turns }⟩

namespace Instruction

/-- **The volumes of a loop.**  Whatever is repeated, in round `k` every volume that is set, and
the full volume where the factor is not 1, is written as what the volume is scaled to.  That is
one of the whole numbers around the exact share; it is the nearest, a half going up, exactly if
the product with the rounded factor is on the right side of the half between them.  With at most
`2 ^ 44` rounds it always is, unless the share is a half itself and the factor was rounded down
by too much. -/
theorem unroll_volumes (rounds : Repeat) :
    ∃ (scale : Nat → Dial.Level .outputVolume → Dial.Level .outputVolume)
      (isScaled : Nat → Bool),
      (∀ body, unroll body rounds = .ok ((List.range rounds.count).flatMap fun k =>
        roundBy (scale k) (isScaled k) body k)) ∧
      ∀ k < rounds.count, ∃ factor, rounds.fade.factor k rounds.count = .ok factor ∧
        (isScaled k = true ↔ factor ≠ .one) ∧
        ∀ v, ScaledTo factor (rounds.fade.partsLeft k rounds.count) rounds.count v (scale k v) := by
  have exist : ∀ k, ∃ (factor : Binary64)
      (scale : Dial.Level .outputVolume → Dial.Level .outputVolume), k < rounds.count →
        rounds.fade.factor k rounds.count = .ok factor ∧
        ∀ v, ScaledTo factor (rounds.fade.partsLeft k rounds.count) rounds.count v (scale v) := by
    intro k
    by_cases inside : k < rounds.count
    · obtain ⟨factor, factored, upTo⟩ := rounds.exists_factor inside
      have ratio := (rounds.fade.factor_eq inside).symm.trans factored
      choose scale scaled using exists_scaledTo rounds.positive (rounds.fade.partsLeft_le inside)
        ratio upTo
      exact ⟨factor, scale, fun _ => ⟨factored, scaled⟩⟩
    · exact ⟨.one, id, fun h => absurd h inside⟩
  choose factor scale spec using exist
  refine ⟨scale, fun k => factor k ≠ .one, fun body => ?_, fun k inside => ?_⟩
  · have all : (List.range rounds.count).mapM (round body rounds) =
        .ok ((List.range rounds.count).map fun k => roundBy (scale k) (factor k ≠ .one) body k) := by
      refine Except.mapM_eq_ok_map fun k mem => ?_
      obtain ⟨factored, scaled⟩ := spec k (List.mem_range.1 mem)
      exact round_eq (fun v => (scaled v).scales) body factored
    exact unroll_eq_ok.2 ⟨_, all, by rw [List.flatMap_def]⟩
  · obtain ⟨factored, scaled⟩ := spec k inside
    exact ⟨factor k, factored, by simp, scaled⟩

/-- Ten rounds: of 45, the shares 4.5, 13.5, 22.5 and 40.5 go up and 31.5 goes down. -/
theorem ten_volumes_of_45 :
    ∃ (scale : Nat → Dial.Level .outputVolume → Dial.Level .outputVolume)
      (isScaled : Nat → Bool),
      unroll [outputVolume 45] ⟨10, .fadeIn, by decide⟩ =
        .ok ((List.range 10).flatMap fun k =>
          roundBy (scale k) (isScaled k) [outputVolume 45] k) ∧
      (List.range 10).map (fun k => scale k 45) = [5, 9, 14, 18, 23, 27, 31, 36, 41, 45] := by
  obtain ⟨scale, isScaled, written, rounds⟩ := unroll_volumes ⟨10, .fadeIn, by decide⟩
  refine ⟨scale, isScaled, written _, ?_⟩
  have volumes : Fade.fadeIn.volumes 10 (45 : Dial.Level .outputVolume).val =
      .ok ([5, 9, 14, 18, 23, 27, 31, 36, 41, 45].map
        fun level : Dial.Level .outputVolume => (level.val : Int)) := by
    decide +kernel
  have scaled : Fade.fadeIn.volumes 10 (45 : Dial.Level .outputVolume).val =
      .ok (((List.range 10).map fun k => scale k 45).map
        fun level : Dial.Level .outputVolume => (level.val : Int)) := by
    rw [List.map_map]
    refine Except.mapM_eq_ok_map fun k mem => ?_
    obtain ⟨factor, factored, -, scales⟩ := rounds k (List.mem_range.1 mem)
    change Fade.fadeIn.factor k (10 : Nat) = .ok factor at factored
    rw [factored]
    exact (scales 45).scales
  have injective : Function.Injective fun level : Dial.Level .outputVolume => (level.val : Int) :=
    fun a b h => Fin.ext (Int.ofNat.inj h)
  exact List.map_injective_iff.2 injective (Except.ok.inj (scaled.symm.trans volumes))

/-- 45 scaled to 7 of 10 parts is 31.5, and the full volume scaled to 23 of 40 parts is 57.5;
neither goes up. -/
theorem half_goes_down :
    round [outputVolume 45] ⟨10, .fadeIn, by decide⟩ 6 =
        .ok [.reset, outputVolume 70, outputVolume 31] ∧ halfUp (45 * 7) 10 = 32 ∧
      round [] ⟨40, .fadeIn, by decide⟩ 22 = .ok [.reset, outputVolume 57] ∧
      halfUp (100 * 23) 40 = 58 := by
  refine ⟨?_, by decide, ?_, by decide⟩
  · rfl
  · rfl

end Instruction
end Recital
