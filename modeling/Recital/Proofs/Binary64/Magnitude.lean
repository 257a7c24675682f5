/-
# The sign stays out of rounding

Numbers are rounded by their magnitude, and the sign is put in front of what comes out.  So
the bounds of `UpTo` hold of magnitudes whatever the signs are, and a whole number that a
product or a quotient is brought to is no further from zero than that may be.  What comes out of
a number with another sign is what comes out of the number, with that sign (`withSign`).
-/

import Recital.Proofs.Binary64.Bound

namespace Recital

namespace Binary64

/-- A number without its sign. -/
def magnitude : Binary64 → Binary64
  | .finite _ m e => .finite false m e
  | .infinite _ => .infinite false
  | .nan => .nan

variable {bound other : ℚ} {x y : Binary64}

theorem magnitude_carry (negative : Bool) (m : Nat) (e : Int) :
    (carry negative m e).magnitude = carry false m e := by
  simp only [carry]
  split_ifs <;> rfl

theorem magnitude_ofQuotient (negative : Bool) (num den : Nat) :
    (ofQuotient negative num den).magnitude = ofQuotient false num den := by
  rw [ofQuotient, ofQuotient]
  split_ifs
  · rfl
  · exact magnitude_carry ..

theorem magnitude_ofScaled (negative : Bool) (m : Nat) (e : Int) :
    (ofScaled negative m e).magnitude = ofScaled false m e :=
  magnitude_ofQuotient ..

theorem UpTo.magnitude (h : UpTo bound x) : UpTo bound x.magnitude := by
  obtain ⟨m, e, rfl, le⟩ := h
  exact ⟨m, e, rfl, le⟩

theorem UpTo.exists_finite (h : UpTo bound x.magnitude) :
    ∃ negative m e, x = .finite negative m e ∧ (m : ℚ) * 2 ^ e ≤ bound := by
  obtain ⟨m, e, same, le⟩ := h
  cases x with
  | finite negative m' e' =>
    obtain ⟨-, rfl, rfl⟩ := Binary64.finite.inj same
    exact ⟨negative, m', e', rfl, le⟩
  | infinite negative => cases same
  | nan => cases same

/-- A whole number below `2 ^ 53` in magnitude has a binary64 number no greater in
magnitude. -/
theorem exists_ofInt {n : Int} (small : n.natAbs < 2 ^ 53) :
    ∃ x, ofInt n = .ok x ∧ UpTo n.natAbs x.magnitude := by
  have rounded : UpTo (n.natAbs * 2 ^ (0 : Int)) (ofQuotient false n.natAbs 1) :=
    upTo_ofQuotient Nat.one_pos (by simp) small (by decide) (by decide)
  rw [zpow_zero, mul_one, ← magnitude_ofQuotient (n < 0)] at rounded
  obtain ⟨negative, m, e, finite, -⟩ := rounded.exists_finite
  refine ⟨_, ?_, rounded⟩
  rw [ofInt, finite]
  rfl

/-- A product of numbers of any sign is no greater in magnitude than that of their bounds. -/
theorem UpTo.mul_of_le {b : Nat} (hx : UpTo bound x.magnitude) (hy : UpTo other y.magnitude)
    (product : bound * other ≤ b) (significand : b < 2 ^ 53) : UpTo b (x.mul y).magnitude := by
  obtain ⟨s, m, e, rfl, le⟩ := hx.exists_finite
  obtain ⟨t, n, f, rfl, le'⟩ := hy.exists_finite
  have exact : (m * 2 ^ e : ℚ) * (n * 2 ^ f) ≤ b * 2 ^ (0 : Int) := by
    rw [zpow_zero, mul_one]
    have nonneg : 0 ≤ bound := (by positivity : (0 : ℚ) ≤ m * 2 ^ e).trans le
    exact (mul_le_mul le le' (by positivity) nonneg).trans product
  have rounded := (roundedFrom_mul m e n f).upTo exact significand (by decide) (by decide)
  rw [zpow_zero, mul_one] at rounded
  rw [Binary64.mul, magnitude_ofScaled]
  exact rounded

/-- A product with a number up to 1, of any sign. -/
theorem UpTo.mul_magnitude {b : Nat} (hx : UpTo b x.magnitude) (hy : UpTo 1 y.magnitude)
    (significand : b < 2 ^ 53) : UpTo b (x.mul y).magnitude :=
  hx.mul_of_le hy (mul_one _).le significand

/-- A quotient by a positive number is no greater in magnitude than that of the bound. -/
theorem UpTo.div_of_le {b n : Nat} {f : Int} (hx : UpTo bound x.magnitude) (positive : 0 < n)
    (quotient : bound / (n * 2 ^ f) ≤ b) (significand : b < 2 ^ 53) :
    ∃ z, x.div (finite false n f) = .ok z ∧ UpTo b z.magnitude := by
  obtain ⟨s, m, e, rfl, le⟩ := hx.exists_finite
  obtain ⟨den_pos, scaled⟩ := scaleDown_spec m positive (f - e)
  have divided : (finite s m e).div (finite false n f) =
      .ok (ofQuotient (s != false) (scaleDown m n (f - e)).1 (scaleDown m n (f - e)).2) := by
    cases n with
    | zero => exact absurd positive (Nat.lt_irrefl 0)
    | succ n => rfl
  have exact : ((scaleDown m n (f - e)).1 : ℚ) / (scaleDown m n (f - e)).2 ≤ b * 2 ^ (0 : Int) :=
    calc ((scaleDown m n (f - e)).1 : ℚ) / (scaleDown m n (f - e)).2
        = m * 2 ^ e / (n * 2 ^ f) := by
          rw [scaled, zpow_sub₀ two_ne_zero]
          field_simp
      _ ≤ bound / (n * 2 ^ f) := by gcongr
      _ ≤ b := quotient
      _ = b * 2 ^ (0 : Int) := by rw [zpow_zero, mul_one]
  have rounded := upTo_ofQuotient den_pos exact significand (by decide) (by decide)
  rw [zpow_zero, mul_one, ← magnitude_ofQuotient (s != false)] at rounded
  exact ⟨_, divided, rounded⟩

/-- A rule that keeps quotients up to a whole bound keeps a number of any sign up to it. -/
theorem UpTo.toIntBy {b : Nat} {rule : Nat → Nat → Nat} (h : UpTo b x.magnitude)
    (bounded : ∀ {num den : Nat}, 0 < den → num ≤ b * den → rule num den ≤ b) :
    ∃ n : Int, x.toIntBy rule = .ok n ∧ n.natAbs ≤ b := by
  obtain ⟨negative, m, e, rfl, le⟩ := h.exists_finite
  obtain ⟨positive, quotient⟩ := scaleDown_one_spec m e
  have scaled : (scaleDown m 1 (-e)).1 ≤ b * (scaleDown m 1 (-e)).2 := by
    rw [← quotient, div_le_iff₀ (by exact_mod_cast positive)] at le
    exact_mod_cast le
  have whole := bounded positive scaled
  refine ⟨signed negative (rule (scaleDown m 1 (-e)).1 (scaleDown m 1 (-e)).2), rfl, ?_⟩
  cases negative <;> simpa [signed] using whole

/-- **The nearest whole number** of a number up to a whole bound is up to it as well. -/
theorem UpTo.round {b : Nat} (h : UpTo b x.magnitude) :
    ∃ n : Int, x.round = .ok n ∧ n.natAbs ≤ b :=
  h.toIntBy roundHalfEven_le

/-- The whole part of a number up to a whole bound is up to it as well. -/
theorem UpTo.truncate_magnitude {b : Nat} (h : UpTo b x.magnitude) :
    ∃ n : Int, x.truncate = .ok n ∧ n.natAbs ≤ b :=
  h.toIntBy fun _ le => Nat.div_le_of_le_mul (le.trans_eq (Nat.mul_comm ..))

/-! ### The sign comes back -/

/-- A number with a sign in the place of its own. -/
def withSign (negative : Bool) : Binary64 → Binary64
  | .finite _ m e => .finite negative m e
  | .infinite _ => .infinite negative
  | .nan => .nan

/-- **The sign is put in front** of what the magnitude is rounded to. -/
theorem ofQuotient_eq_withSign (negative : Bool) (num den : Nat) :
    ofQuotient negative num den = (ofQuotient false num den).withSign negative := by
  have carried : ∀ m e, carry negative m e = (carry false m e).withSign negative := by
    intro m e
    simp only [carry]
    split_ifs <;> rfl
  rw [ofQuotient, ofQuotient]
  split_ifs
  · rfl
  · exact carried ..

theorem ofInt_withSign {n : Int} (h : ofInt n.natAbs = .ok x) :
    ofInt n = .ok (x.withSign (n < 0)) := by
  rw [ofInt_natCast] at h
  split at h
  · cases h
  · rename_i finite
    obtain rfl := Except.ok.inj h
    rw [ofInt, ofQuotient_eq_withSign]
    cases rounded : ofQuotient false n.natAbs 1 with
    | finite negative m e => rfl
    | infinite negative =>
      rw [rounded] at finite
      exact absurd rfl finite
    | nan => rfl

theorem UpTo.mul_withSign (hx : UpTo bound x) (hy : UpTo other y) (negative : Bool) :
    (x.withSign negative).mul y = (x.mul y).withSign negative := by
  obtain ⟨m, e, rfl, -⟩ := hx
  obtain ⟨n, f, rfl, -⟩ := hy
  rw [withSign, Binary64.mul, Binary64.mul, ofScaled, ofScaled, Bool.bne_false, Bool.bne_false]
  exact ofQuotient_eq_withSign ..

theorem UpTo.round_withSign {n : Nat} (hx : UpTo bound x) (rounds : x.round = .ok (n : Int))
    (negative : Bool) : (x.withSign negative).round = .ok (signed negative n) := by
  obtain ⟨m, e, rfl, -⟩ := hx
  have whole : ((roundHalfEven (scaleDown m 1 (-e)).1 (scaleDown m 1 (-e)).2 : Nat) : Int) = n :=
    Except.ok.inj rounds
  rw [← Int.ofNat.inj whole]
  rfl

end Binary64
end Recital
