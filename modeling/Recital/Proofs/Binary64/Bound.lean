/-
# Rounding does not pass a bound

A result that lies between zero and a bound still does after it is rounded, if the bound is
itself a binary64 number.  Rounding to a grid of step `2 ^ e` cannot pass a multiple of the
step, and a bound `b * 2 ^ t` with `b < 2 ^ 53` is one: the grid is that of the magnitude of
the exact result, which is no greater than that of the bound (`rounded_le`).

`UpTo bound x` says that `x` is finite, not negative and at most `bound`, and
`RoundedFrom exact x` that `x` is what rounding makes of an exact amount.  Each operation is
rounded from its exact result, and has a lemma that carries bounds through it.
-/

import Recital.Binary64.Basic
import Mathlib.Algebra.Order.Field.Power
import Mathlib.Algebra.Order.Floor.Semifield
import Mathlib.Data.Nat.Cast.Order.Field
import Mathlib.Data.Rat.Floor
import Mathlib.Tactic.Linarith
import Mathlib.Tactic.Positivity
import Mathlib.Tactic.Ring

namespace Recital

theorem powerOfTwo_eq (k : Nat) : powerOfTwo k = 2 ^ k := Nat.one_shiftLeft k

/-- Rounding to a whole number does not pass a whole number. -/
theorem roundHalfEven_le {num den bound : Nat} (positive : 0 < den) (h : num ≤ bound * den) :
    roundHalfEven num den ≤ bound := by
  have whole : num / den ≤ bound := Nat.div_le_of_le_mul (by rwa [Nat.mul_comm])
  rcases Nat.lt_or_eq_of_le whole with below | exact
  · unfold roundHalfEven
    dsimp only
    split_ifs <;> omega
  · have split := Nat.div_add_mod num den
    rw [exact, Nat.mul_comm] at split
    have nothingLeft : num % den = 0 := by omega
    simp [roundHalfEven, nothingLeft, exact, positive]

namespace Binary64

/-- `scaleDown` divides by a power of two. -/
theorem scaleDown_spec (num : Nat) {den : Nat} (positive : 0 < den) (e : Int) :
    0 < (scaleDown num den e).2 ∧
      ((scaleDown num den e).1 : ℚ) / (scaleDown num den e).2 = num / den / 2 ^ e := by
  have den' : (den : ℚ) ≠ 0 := by positivity
  rw [scaleDown]
  split
  · rename_i up
    obtain ⟨k, rfl⟩ := Int.eq_ofNat_of_zero_le up
    refine ⟨by simp [powerOfTwo_eq, positive], ?_⟩
    simp only [Int.toNat_natCast, powerOfTwo_eq, Nat.cast_mul, Nat.cast_pow, Nat.cast_ofNat,
      zpow_natCast]
    rw [div_div]
  · rename_i down
    obtain ⟨k, rfl⟩ : ∃ k : Nat, e = -k := ⟨(-e).toNat, by omega⟩
    refine ⟨positive, ?_⟩
    simp only [neg_neg, Int.toNat_natCast, powerOfTwo_eq, Nat.cast_mul, Nat.cast_pow,
      Nat.cast_ofNat, zpow_neg, zpow_natCast, div_inv_eq_mul]
    rw [div_mul_eq_mul_div]

/-- A finite number's magnitude, as the quotient that is handed on to be rounded. -/
theorem scaleDown_one_spec (m : Nat) (e : Int) :
    0 < (scaleDown m 1 (-e)).2 ∧
      ((scaleDown m 1 (-e)).1 : ℚ) / (scaleDown m 1 (-e)).2 = m * 2 ^ e := by
  obtain ⟨positive, quotient⟩ := scaleDown_spec m Nat.one_pos (-e)
  rw [Nat.cast_one, div_one, zpow_neg, div_inv_eq_mul] at quotient
  exact ⟨positive, quotient⟩

/-- The magnitude is a power of two below the quotient. -/
theorem two_zpow_binaryMagnitude_le {num den : Nat} (num_pos : 0 < num) (den_pos : 0 < den) :
    (2 : ℚ) ^ binaryMagnitude num den ≤ num / den := by
  obtain ⟨positive, quotient⟩ :=
    scaleDown_spec num den_pos ((num.log2 : Int) - (den.log2 : Int))
  have den' : (0 : ℚ) < den := by exact_mod_cast den_pos
  rw [binaryMagnitude]
  dsimp only
  split
  · rename_i le
    have one_le : (1 : ℚ) ≤ num / den / 2 ^ ((num.log2 : Int) - (den.log2 : Int)) := by
      rw [← quotient, le_div_iff₀ (by exact_mod_cast positive), one_mul]
      exact_mod_cast le
    rwa [le_div_iff₀ (by positivity), one_mul] at one_le
  · have below : (2 : ℚ) ^ num.log2 ≤ num := by exact_mod_cast Nat.log2_self_le num_pos.ne'
    have above : (den : ℚ) < 2 ^ (den.log2 + 1) := by exact_mod_cast Nat.lt_log2_self
    rw [le_div_iff₀ den']
    calc (2 : ℚ) ^ ((num.log2 : Int) - den.log2 - 1) * den
        ≤ 2 ^ ((num.log2 : Int) - den.log2 - 1) * 2 ^ (den.log2 + 1) := by gcongr
      _ = 2 ^ num.log2 := by
        rw [← zpow_natCast, ← zpow_natCast, ← zpow_add₀ two_ne_zero]
        congr 1
        push_cast
        ring
      _ ≤ num := below

/-- Whether a number is finite, not negative and at most a bound. -/
def UpTo (bound : ℚ) (x : Binary64) : Prop :=
  ∃ (m : Nat) (e : Int), x = .finite false m e ∧ (m : ℚ) * 2 ^ e ≤ bound

theorem upTo_half : UpTo (1 / 2) half := by
  refine ⟨_, _, rfl, ?_⟩
  rw [powerOfTwo_eq]
  norm_num

/-- A significand that rounding has carried over stands for the same amount, unless that is too
large. -/
theorem carry_cases (negative : Bool) (m : Nat) (e : Int) :
    (carry negative m e = .infinite negative ∧ greatestExponent ≤ e) ∨
      ∃ n f, carry negative m e = .finite negative n f ∧ (n : ℚ) * 2 ^ f = m * 2 ^ e := by
  rw [carry]
  by_cases full : m = powerOfTwo precision
  · rw [if_pos full]
    dsimp only
    split
    · rename_i beyond
      exact .inl ⟨rfl, by omega⟩
    · refine .inr ⟨_, _, rfl, ?_⟩
      rw [full, powerOfTwo_eq, powerOfTwo_eq, zpow_add₀ two_ne_zero, precision]
      push_cast
      ring
  · rw [if_neg full]
    dsimp only
    split
    · rename_i beyond
      exact .inl ⟨rfl, beyond.le⟩
    · exact .inr ⟨m, e, rfl, rfl⟩

theorem upTo_carry {bound : ℚ} {m : Nat} {e : Int} (h : (m : ℚ) * 2 ^ e ≤ bound)
    (fits : e < greatestExponent) : UpTo bound (carry false m e) := by
  rcases carry_cases false m e with ⟨-, beyond⟩ | ⟨n, f, carried, same⟩
  · exact absurd fits beyond.not_gt
  · exact ⟨n, f, carried, same.trans_le h⟩

/-- **Rounding does not pass a bound** that is a binary64 number itself. -/
theorem upTo_ofQuotient {num den b : Nat} {t : Int} (den_pos : 0 < den)
    (h : (num : ℚ) / den ≤ b * 2 ^ t) (significand : b < 2 ^ 53) (least : leastExponent ≤ t)
    (greatest : t < greatestExponent) : UpTo (b * 2 ^ t) (ofQuotient false num den) := by
  rw [ofQuotient]
  split
  · exact ⟨0, leastExponent, rfl, by rw [Nat.cast_zero, zero_mul]; positivity⟩
  · rename_i num_ne
    have magnitude := two_zpow_binaryMagnitude_le (Nat.pos_of_ne_zero num_ne) den_pos
    generalize step : max (binaryMagnitude num den - (precision - 1 : Nat)) leastExponent = e
    -- The grid is no coarser than that of the bound.
    have fine : e ≤ t := by
      by_contra coarse
      have tooBig : (b : ℚ) * 2 ^ t < 2 ^ binaryMagnitude num den := by
        calc (b : ℚ) * 2 ^ t < 2 ^ 53 * 2 ^ t := by
              gcongr
              exact_mod_cast significand
          _ = 2 ^ (53 + t) := by rw [zpow_add₀ two_ne_zero]; norm_num
          _ ≤ 2 ^ binaryMagnitude num den := by
              refine zpow_le_zpow_right₀ one_le_two ?_
              have : (precision - 1 : Nat) = 52 := rfl
              omega
      linarith
    obtain ⟨positive, quotient⟩ := scaleDown_spec num den_pos e
    dsimp only
    obtain ⟨k, rfl⟩ : ∃ k : Nat, t = e + k := ⟨(t - e).toNat, by omega⟩
    have scaled : (scaleDown num den e).1 ≤ b * 2 ^ k * (scaleDown num den e).2 := by
      have le : ((scaleDown num den e).1 : ℚ) / (scaleDown num den e).2 ≤ b * 2 ^ k := by
        rw [quotient, div_le_iff₀ (by positivity), mul_assoc, ← zpow_natCast,
          ← zpow_add₀ two_ne_zero, add_comm (k : Int)]
        exact h
      rw [div_le_iff₀ (by exact_mod_cast positive)] at le
      exact_mod_cast le
    have rounded := roundHalfEven_le positive scaled
    refine upTo_carry ?_ (by omega)
    calc ((roundHalfEven (scaleDown num den e).1 (scaleDown num den e).2 : Nat) : ℚ) * 2 ^ e
        ≤ ((b * 2 ^ k : Nat) : ℚ) * 2 ^ e := by gcongr
      _ = b * 2 ^ (e + k) := by
        rw [zpow_add₀ two_ne_zero, zpow_natCast]
        push_cast
        ring

/-! ### What is rounded -/

/-- Whether a number is what an exact amount, a quotient, is rounded to. -/
def RoundedFrom (exact : ℚ) (x : Binary64) : Prop :=
  ∃ num den : Nat, 0 < den ∧ (num : ℚ) / den = exact ∧ x = ofQuotient false num den

variable {bound other exact : ℚ} {x y : Binary64}

theorem RoundedFrom.upTo {b : Nat} {t : Int} (rounded : RoundedFrom exact x)
    (h : exact ≤ b * 2 ^ t) (significand : b < 2 ^ 53) (least : leastExponent ≤ t)
    (greatest : t < greatestExponent) : UpTo (b * 2 ^ t) x := by
  obtain ⟨num, den, positive, rfl, rfl⟩ := rounded
  exact upTo_ofQuotient positive h significand least greatest

/-- A finite number is handed on exactly, as a quotient, to be rounded. -/
theorem roundedFrom_ofScaled (m : Nat) (e : Int) :
    RoundedFrom (m * 2 ^ e) (ofScaled false m e) := by
  obtain ⟨positive, quotient⟩ := scaleDown_one_spec m e
  exact ⟨_, _, positive, quotient, rfl⟩

theorem ofRatio_natCast {num den : Nat} (positive : 0 < den) :
    ofRatio num den = if (ofQuotient false num den).isInfinite then .error .quotientTooLarge
      else .ok (ofQuotient false num den) := by
  have sign : (decide ((num : Int) < 0) != decide ((den : Int) < 0)) = false := by
    rw [decide_eq_false (by omega), decide_eq_false (by omega)]
    rfl
  rw [ofRatio, if_neg (by omega), sign, Int.natAbs_natCast, Int.natAbs_natCast]

theorem ofInt_natCast (n : Nat) :
    ofInt n = if (ofQuotient false n 1).isInfinite then .error .integerTooLarge
      else .ok (ofQuotient false n 1) := by
  have sign : decide ((n : Int) < 0) = false := by simp
  rw [ofInt, sign, Int.natAbs_natCast]

theorem roundedFrom_ofRatio {num den : Nat} (positive : 0 < den)
    (h : ofRatio num den = .ok x) : RoundedFrom (num / den) x := by
  rw [ofRatio_natCast positive] at h
  split at h
  · cases h
  · exact ⟨num, den, positive, rfl, (Except.ok.inj h).symm⟩

theorem roundedFrom_ofInt {n : Nat} (h : ofInt n = .ok x) : RoundedFrom n x := by
  rw [ofInt_natCast] at h
  split at h
  · cases h
  · exact ⟨n, 1, Nat.one_pos, by simp, (Except.ok.inj h).symm⟩

theorem roundedFrom_mul (m : Nat) (e : Int) (n : Nat) (f : Int) :
    RoundedFrom ((m * 2 ^ e) * (n * 2 ^ f)) ((finite false m e).mul (finite false n f)) := by
  have product : ((m * n : Nat) : ℚ) * 2 ^ (e + f) = (m * 2 ^ e) * (n * 2 ^ f) := by
    rw [zpow_add₀ two_ne_zero]
    push_cast
    ring
  exact product ▸ roundedFrom_ofScaled (m * n) (e + f)

theorem roundedFrom_add (m : Nat) (e : Int) (n : Nat) (f : Int) :
    RoundedFrom (m * 2 ^ e + n * 2 ^ f) ((finite false m e).add (finite false n f)) := by
  -- Both terms are brought to the lesser exponent.
  have aligned : ∀ (k : Nat) (g : Int), min e f ≤ g →
      ((k * powerOfTwo (g - min e f).toNat : Nat) : ℚ) * 2 ^ min e f = k * 2 ^ g := by
    intro k g le
    rw [powerOfTwo_eq, Nat.cast_mul, Nat.cast_pow, Nat.cast_ofNat, mul_assoc, ← zpow_natCast,
      ← zpow_add₀ two_ne_zero]
    congr 2
    omega
  have unsigned : ∀ k, signed false k = (k : Int) := fun _ => rfl
  rw [← aligned m e (min_le_left ..), ← aligned n f (min_le_right ..), ← add_mul, ← Nat.cast_add]
  simp only [Binary64.add, unsigned]
  split
  · rename_i nothing
    rw [← Int.natCast_add, Int.natCast_eq_zero] at nothing
    rw [nothing, Nat.cast_zero, zero_mul]
    exact ⟨0, 1, Nat.one_pos, by simp, rfl⟩
  · rw [decide_eq_false (by omega), ← Int.natCast_add, Int.natAbs_natCast]
    exact roundedFrom_ofScaled ..

/-! ### Bounds of the operations -/

/-- **A ratio of natural numbers** that is at most 1 has a binary64 number up to 1. -/
theorem upTo_ofRatio {num den : Nat} (positive : 0 < den) (le : num ≤ den) :
    ∃ x, ofRatio num den = .ok x ∧ UpTo 1 x := by
  have rounded : UpTo ((1 : Nat) * 2 ^ (0 : Int)) (ofQuotient false num den) := by
    refine upTo_ofQuotient positive ?_ (by norm_num) (by decide) (by decide)
    rw [div_le_iff₀ (by exact_mod_cast positive)]
    simpa using le
  rw [zpow_zero, mul_one, Nat.cast_one] at rounded
  refine ⟨_, ?_, rounded⟩
  obtain ⟨m, e, finite, -⟩ := rounded
  rw [ofRatio_natCast positive, finite]
  rfl

/-- A natural number that is at most `2 ^ 53 - 1` is no more than itself as a binary64
number. -/
theorem upTo_ofInt {n : Nat} (small : n < 2 ^ 53) : ∃ x, ofInt n = .ok x ∧ UpTo n x := by
  have rounded : UpTo (n * 2 ^ (0 : Int)) (ofQuotient false n 1) :=
    upTo_ofQuotient Nat.one_pos (by simp) small (by decide) (by decide)
  rw [zpow_zero, mul_one] at rounded
  refine ⟨_, ?_, rounded⟩
  obtain ⟨m, e, finite, -⟩ := rounded
  rw [ofInt_natCast, finite]
  rfl

/-- **A product** with a number up to 1 is no greater than the other factor may be. -/
theorem UpTo.mul {b : Nat} {t : Int} (hx : UpTo (b * 2 ^ t) x) (hy : UpTo 1 y)
    (significand : b < 2 ^ 53) (least : leastExponent ≤ t) (greatest : t < greatestExponent) :
    UpTo (b * 2 ^ t) (x.mul y) := by
  obtain ⟨m, e, rfl, le⟩ := hx
  obtain ⟨n, f, rfl, le_one⟩ := hy
  refine (roundedFrom_mul m e n f).upTo ?_ significand least greatest
  calc (m * 2 ^ e : ℚ) * (n * 2 ^ f) ≤ (b * 2 ^ t) * 1 := by gcongr
    _ = b * 2 ^ t := mul_one _

/-- **A sum** is no greater than the sum of the bounds, if that is a binary64 number. -/
theorem UpTo.add {b : Nat} {t : Int} (hx : UpTo bound x) (hy : UpTo other y)
    (sum : bound + other ≤ b * 2 ^ t) (significand : b < 2 ^ 53) (least : leastExponent ≤ t)
    (greatest : t < greatestExponent) : UpTo (b * 2 ^ t) (x.add y) := by
  obtain ⟨m, e, rfl, hm⟩ := hx
  obtain ⟨n, f, rfl, hn⟩ := hy
  exact (roundedFrom_add m e n f).upTo ((add_le_add hm hn).trans sum) significand least greatest

/-- The whole part of a number that is not negative. -/
theorem truncate_finite (m : Nat) (e : Int) :
    (finite false m e).truncate = .ok (⌊(m : ℚ) * 2 ^ e⌋₊ : Int) := by
  obtain ⟨-, quotient⟩ := scaleDown_one_spec m e
  rw [← quotient, Nat.floor_div_eq_div]
  rfl

/-- **The whole part** of a number up to a bound is a natural number up to it. -/
theorem UpTo.truncate (h : UpTo bound x) :
    ∃ n : Nat, x.truncate = .ok (n : Int) ∧ (n : ℚ) ≤ bound := by
  obtain ⟨m, e, rfl, le⟩ := h
  exact ⟨_, truncate_finite m e, (Nat.floor_le (by positivity)).trans le⟩

end Binary64
end Recital
