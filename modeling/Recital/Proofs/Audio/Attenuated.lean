/-
# Samples at an output volume

A sample times a factor is rounded twice, to a binary64 number and to a whole number.  The sign
stays out of both, neither passes a bound, and neither turns an order round.  So it is enough to
look at magnitudes, and one lemma, `AtVolume.le`, says all that is needed of them:

| volume | sample | what comes out |
| --- | --- | --- |
| the same | the same | no greater than the sample |
| greater | the same | no less |
| the same | greater | no less |

With the signs, what comes out lies between zero and the sample.  It fits the width that the
sample fits, so that nothing is left to do for the bounds of the width (`exists_attenuated`).
-/

import Recital.Audio.Attenuation
import Recital.Proofs.Binary64.Magnitude
import Recital.Proofs.Binary64.Order
import Recital.Proofs.Except

namespace Recital
namespace Audio

open Binary64 (AtMost UpTo signed)

variable {factor louder : Binary64} {volume volume' s t s' t' : Int} {width : Nat}

/-! ### A sample times a factor -/

/-- A sample times a factor as a whole number, wherever that lies. -/
def scaledSample (factor : Binary64) (sample : Int) : Except Binary64.Fault Int := do
  let x ← Binary64.ofInt sample
  (x.mul factor).round

/-- A sample is scaled, and then kept within the range of its width. -/
theorem attenuateSample_eq (width : Nat) (factor : Binary64) (sample : Int) :
    attenuateSample width factor sample = (scaledSample factor sample).map
      fun scaled => max (leastSample width) (min (greatestSample width) scaled) := by
  rw [attenuateSample, scaledSample]
  cases Binary64.ofInt sample with
  | error fault => rfl
  | ok x =>
    change ((x.mul factor).round >>= _) = (x.mul factor).round.map _
    cases (x.mul factor).round with
    | error fault => rfl
    | ok scaled => rfl

/-- **Magnitudes keep their order,** and none is passed. -/
theorem exists_scaledSample_le {m n : Nat} (le : m ≤ n) (small : n < 2 ^ 53)
    (factors : AtMost factor louder) (upTo : UpTo 1 louder) :
    ∃ k l : Nat, scaledSample factor m = .ok (k : Int) ∧ scaledSample louder n = .ok (l : Int) ∧
      k ≤ l ∧ l ≤ n := by
  obtain ⟨x, y, whole, whole', order, bounded⟩ := Binary64.exists_ofInt_le le small
  have exact : (n : ℚ) = n * 2 ^ (0 : Int) := by rw [zpow_zero, mul_one]
  have products : AtMost (x.mul factor) (y.mul louder) :=
    order.mul factors (exact ▸ bounded) upTo small (by decide) (by decide)
  obtain ⟨k, l, rounds, rounds', steps⟩ := products.round
  obtain ⟨l', same, within⟩ :=
    (bounded.magnitude.mul_magnitude upTo.magnitude small).round
  refine ⟨k, l, ?_, ?_, steps, ?_⟩
  · rw [scaledSample, whole]
    exact rounds
  · rw [scaledSample, whole']
    exact rounds'
  · rw [rounds'] at same
    obtain rfl := Except.ok.inj same
    exact within

/-- The sign is put in front of the scaled magnitude. -/
theorem scaledSample_of_magnitude {k : Nat} (small : s.natAbs < 2 ^ 53) (upTo : UpTo 1 factor)
    (scaled : scaledSample factor s.natAbs = .ok (k : Int)) :
    scaledSample factor s = .ok (signed (s < 0) k) := by
  obtain ⟨x, whole, bounded⟩ := Binary64.upTo_ofInt small
  have exact : (s.natAbs : ℚ) = s.natAbs * 2 ^ (0 : Int) := by rw [zpow_zero, mul_one]
  have product : UpTo (s.natAbs * 2 ^ (0 : Int)) (x.mul factor) :=
    (exact ▸ bounded : UpTo (s.natAbs * 2 ^ (0 : Int)) x).mul upTo small (by decide) (by decide)
  rw [scaledSample, whole] at scaled
  rw [scaledSample, Binary64.ofInt_withSign whole]
  change ((x.withSign _).mul factor).round = _
  rw [bounded.mul_withSign upTo]
  exact product.round_withSign scaled _

/-- **Samples of either sign** are scaled by their magnitudes. -/
theorem exists_scaledSample_signed_le (le : s.natAbs ≤ t.natAbs) (small : t.natAbs < 2 ^ 53)
    (factors : AtMost factor louder) (upTo : UpTo 1 louder) :
    ∃ k l : Nat, scaledSample factor s = .ok (signed (s < 0) k) ∧
      scaledSample louder t = .ok (signed (t < 0) l) ∧ k ≤ l ∧ l ≤ t.natAbs := by
  obtain ⟨k, l, scaled, scaled', steps, within⟩ := exists_scaledSample_le le small factors upTo
  exact ⟨k, l, scaledSample_of_magnitude (le.trans_lt small) (factors.upTo upTo) scaled,
    scaledSample_of_magnitude small upTo scaled', steps, within⟩

/-! ### A sample at a volume -/

/-- The factor of a volume below 100 per cent. -/
def share (volume : Int) : Except Binary64.Fault Binary64 := Binary64.ofRatio (max volume 0) 100

/-- The factors of volumes are in the order of the volumes, up to 1. -/
theorem exists_share_le (le : volume ≤ volume') (below : volume' < 100) :
    ∃ x y, share volume = .ok x ∧ share volume' = .ok y ∧ AtMost x y ∧ UpTo 1 y := by
  have whole : ∀ v : Int, ((max v 0).toNat : Int) = max v 0 :=
    fun v => Int.toNat_of_nonneg (le_max_right ..)
  obtain ⟨x, y, ratio, ratio', order, upTo⟩ := Binary64.exists_ofRatio_le
    (k := (max volume 0).toNat) (l := (max volume' 0).toNat) (n := 100)
    (by omega) (by omega) (by norm_num)
  rw [whole] at ratio ratio'
  exact ⟨x, y, ratio, ratio', order, upTo⟩

/-- Whether a sample is brought to this at a volume, the range of its width aside. -/
def AtVolume (volume sample scaled : Int) : Prop :=
  if 100 ≤ volume then scaled = sample
  else ∃ factor, share volume = .ok factor ∧ scaledSample factor sample = .ok scaled

theorem signed_natAbs (s : Int) : signed (s < 0) s.natAbs = s := by
  by_cases negative : s < 0
  · rw [decide_eq_true negative]
    exact (Int.eq_neg_natAbs_of_nonpos negative.le).symm
  · rw [decide_eq_false negative]
    exact Int.natAbs_of_nonneg (Int.not_lt.1 negative)

theorem AtVolume.le_below (hs : AtVolume volume s s') (ht : AtVolume volume' t t')
    (volumes : volume ≤ volume') (below : volume' < 100) (samples : s.natAbs ≤ t.natAbs)
    (small : t.natAbs < 2 ^ 53) :
    ∃ k l : Nat, s' = signed (s < 0) k ∧ t' = signed (t < 0) l ∧ k ≤ l ∧ l ≤ t.natAbs := by
  rw [AtVolume, if_neg (by omega)] at hs ht
  obtain ⟨x, ratio, scaled⟩ := hs
  obtain ⟨y, ratio', scaled'⟩ := ht
  obtain ⟨x', y', same, same', order, upTo⟩ := exists_share_le volumes below
  obtain rfl := Except.ok.inj (ratio.symm.trans same)
  obtain rfl := Except.ok.inj (ratio'.symm.trans same')
  obtain ⟨k, l, out, out', steps, within⟩ :=
    exists_scaledSample_signed_le samples small order upTo
  exact ⟨k, l, Except.ok.inj (scaled.symm.trans out), Except.ok.inj (scaled'.symm.trans out'),
    steps, within⟩

theorem AtVolume.exists_magnitude (hs : AtVolume volume s s') (small : s.natAbs < 2 ^ 53) :
    ∃ k : Nat, s' = signed (s < 0) k ∧ k ≤ s.natAbs := by
  by_cases whole : 100 ≤ volume
  · rw [AtVolume, if_pos whole] at hs
    exact ⟨s.natAbs, hs.trans (signed_natAbs s).symm, le_rfl⟩
  · obtain ⟨-, k, -, out, -, within⟩ :=
      hs.le_below hs le_rfl (Int.not_le.1 whole) le_rfl small
    exact ⟨k, out, within⟩

/-- **What comes out at a volume** has the sign of the sample and a magnitude up to its own, which
is no greater for a lesser volume and a lesser sample. -/
theorem AtVolume.le (hs : AtVolume volume s s') (ht : AtVolume volume' t t')
    (volumes : volume ≤ volume') (samples : s.natAbs ≤ t.natAbs) (small : t.natAbs < 2 ^ 53) :
    ∃ k l : Nat, s' = signed (s < 0) k ∧ t' = signed (t < 0) l ∧ k ≤ l ∧ l ≤ t.natAbs := by
  by_cases whole : 100 ≤ volume'
  · obtain rfl : t' = t := by rwa [AtVolume, if_pos whole] at ht
    obtain ⟨k, out, within⟩ := hs.exists_magnitude (samples.trans_lt small)
    exact ⟨k, t'.natAbs, out, (signed_natAbs t').symm, within.trans samples, le_rfl⟩
  · exact hs.le_below ht volumes (Int.not_le.1 whole) samples small

/-- Whether `t` lies between zero and `s`. -/
def Between (s t : Int) : Prop := 0 ≤ t ∧ t ≤ s ∨ s ≤ t ∧ t ≤ 0

theorem AtVolume.between (h : AtVolume volume s s') (small : s.natAbs < 2 ^ 53) :
    Between s s' := by
  obtain ⟨k, rfl, within⟩ := h.exists_magnitude small
  simp only [Between, signed, decide_eq_true_eq]
  split_ifs <;> omega

/-- A greater volume takes no sample nearer to zero. -/
theorem AtVolume.natAbs_le (h : AtVolume volume s s') (h' : AtVolume volume' s t')
    (volumes : volume ≤ volume') (small : s.natAbs < 2 ^ 53) : s'.natAbs ≤ t'.natAbs := by
  obtain ⟨k, l, rfl, rfl, le, -⟩ := h.le h' volumes le_rfl small
  simp only [signed, decide_eq_true_eq]
  split_ifs <;> omega

/-- A greater sample does not become the lesser one. -/
theorem AtVolume.mono (hs : AtVolume volume s s') (ht : AtVolume volume t t') (le : s ≤ t)
    (small : s.natAbs < 2 ^ 53) (small' : t.natAbs < 2 ^ 53) : s' ≤ t' := by
  have low := hs.between small
  have high := ht.between small'
  rcases lt_or_ge s 0 with negative | positive
  · rcases lt_or_ge t 0 with negative' | positive'
    · -- Below zero the greater sample has the lesser magnitude.
      obtain ⟨l, k, rfl, rfl, steps, -⟩ := ht.le hs le_rfl (by omega) small
      simp only [signed, decide_eq_true negative, decide_eq_true negative', if_true]
      omega
    · unfold Between at low high
      omega
  · obtain ⟨k, l, rfl, rfl, steps, -⟩ := hs.le ht le_rfl (by omega) small'
    simp only [signed, decide_eq_false positive.not_gt,
      decide_eq_false (positive.trans le).not_gt, Bool.false_eq_true, if_false]
    omega

/-- Without volume nothing is left of a sample. -/
theorem AtVolume.eq_zero (h : AtVolume volume s s') (silent : volume ≤ 0)
    (small : s.natAbs < 2 ^ 53) : s' = 0 := by
  rw [AtVolume, if_neg (by omega), share, max_eq_right silent] at h
  obtain ⟨x, ratio, scaled⟩ := h
  obtain rfl : Binary64.zero false = x := Except.ok.inj ratio
  have nothing : UpTo 0 (Binary64.zero false) := ⟨0, Binary64.leastExponent, rfl, by simp⟩
  obtain ⟨y, whole, bounded⟩ := Binary64.exists_ofInt small
  obtain ⟨n, rounds, zero⟩ :=
    (bounded.mul_of_le nothing.magnitude (b := 0) (by simp) (by norm_num)).round
  rw [scaledSample, whole] at scaled
  obtain rfl : n = s' := Except.ok.inj (rounds.symm.trans scaled)
  omega

/-! ### Audio at a volume -/

/-- Whether a sample fits so many bytes. -/
def Fits (width : Nat) (sample : Int) : Prop :=
  leastSample width ≤ sample ∧ sample ≤ greatestSample width

theorem fits_zero (width : Nat) : Fits width 0 := by
  have positive : 0 < powerOfTwo (8 * width - 1) := by
    rw [powerOfTwo_eq]
    positivity
  rw [Fits, leastSample, greatestSample]
  omega

theorem Fits.of_between (fit : Fits width s) (h : Between s t) : Fits width t := by
  have zero := fits_zero width
  unfold Between at h
  unfold Fits leastSample greatestSample at *
  omega

theorem Fits.small (fit : Fits width s) (widths : width ∈ [1, 2, 4]) : s.natAbs < 2 ^ 53 := by
  obtain ⟨low, high⟩ := fit
  simp only [List.mem_cons, List.not_mem_nil, or_false] at widths
  rcases widths with rfl | rfl | rfl <;>
    · simp only [leastSample, greatestSample, powerOfTwo_eq] at low high
      omega

/-- A sample that fits is not changed by keeping it within the range of its width. -/
theorem Fits.clipped (fit : Fits width s) :
    max (leastSample width) (min (greatestSample width) s) = s := by
  rw [min_eq_right fit.2, max_eq_right fit.1]

/-- Whether the samples of audio fit their width, which has so few bytes that they are binary64
numbers themselves. -/
def Sampled (a : Audio) : Prop :=
  ∀ s ∈ a.samples, Fits a.sampleWidth s ∧ s.natAbs < 2 ^ 53

/-- **Each sample is brought to the volume,** and the range of its width takes no part. -/
theorem attenuate_of_sampled {a : Audio} (sampled : a.Sampled) (volume : Int) :
    ∃ samples, a.attenuate volume = .ok { a with samples := samples } ∧
      List.Forall₂ (AtVolume volume) a.samples samples := by
  by_cases whole : 100 ≤ volume
  · exact ⟨a.samples, by rw [attenuate, if_pos whole],
      List.forall₂_same.2 fun s _ => (if_pos whole).mpr rfl⟩
  obtain ⟨x, y, -, ratio, order, upTo⟩ := exists_share_le le_rfl (Int.not_le.1 whole)
  have scalable : ∀ s ∈ a.samples, ∃ t, scaledSample y s = .ok t := by
    intro s mem
    obtain ⟨-, k, -, scaled, -⟩ :=
      exists_scaledSample_signed_le le_rfl (sampled s mem).2 order upTo
    exact ⟨_, scaled⟩
  obtain ⟨samples, all⟩ := Except.exists_mapM_eq_ok scalable
  have scaled := Except.mapM_eq_ok.1 all
  have atVolume : ∀ s t, scaledSample y s = .ok t → AtVolume volume s t :=
    fun _ _ scaled => (if_neg whole).mpr ⟨y, ratio, scaled⟩
  have kept : a.samples.mapM (attenuateSample a.sampleWidth y) = .ok samples := by
    refine Except.mapM_eq_ok.2 (((List.forall₂_and_left ..).2 ⟨sampled, scaled⟩).imp ?_)
    rintro s t ⟨⟨fits, small⟩, scaled⟩
    rw [attenuateSample_eq, scaled]
    exact congrArg Except.ok (fits.of_between ((atVolume s t scaled).between small)).clipped
  refine ⟨samples, ?_, scaled.imp atVolume⟩
  rw [attenuate, if_neg whole]
  change (share volume >>= _) = _
  rw [ratio]
  change (a.samples.mapM (attenuateSample a.sampleWidth y) >>= _) = _
  rw [kept]
  rfl

/-- What audio is brought to at a volume. -/
structure Attenuated (volume : Int) (a b : Audio) : Prop where
  /-- The frame rate, the channels and the bytes of a sample are kept. -/
  format : b = { a with samples := b.samples }
  /-- There is one sample for each, between zero and that. -/
  between : List.Forall₂ Between a.samples b.samples
  /-- The samples fit their width, which has cut nothing off: they are the rounded products. -/
  fits : ∀ t ∈ b.samples, Fits b.sampleWidth t
  unclipped : volume < 100 → ∃ factor, Binary64.ofRatio (max volume 0) 100 = .ok factor ∧
    a.samples.mapM (scaledSample factor) = .ok b.samples
  ordered : ∀ p ∈ a.samples.zip b.samples, ∀ q ∈ a.samples.zip b.samples,
    p.1 ≤ q.1 → p.2 ≤ q.2
  silent : volume ≤ 0 → ∀ t ∈ b.samples, t = 0
  whole : 100 ≤ volume → b = a

theorem attenuated_of_atVolume {a : Audio} {samples : List Int} (sampled : a.Sampled)
    (h : List.Forall₂ (AtVolume volume) a.samples samples) :
    Attenuated volume a { a with samples := samples } := by
  have each := (List.forall₂_and_left ..).2 ⟨sampled, h⟩
  constructor
  case format => rfl
  case between => exact each.imp fun s t ⟨⟨_, small⟩, brought⟩ => brought.between small
  case fits =>
    intro t mem
    obtain ⟨s, -, ⟨fits, small⟩, brought⟩ := each.exists_of_mem_right mem
    exact fits.of_between (brought.between small)
  case unclipped =>
    intro below
    obtain ⟨x, -, ratio, -⟩ := exists_share_le le_rfl below
    refine ⟨x, ratio, Except.mapM_eq_ok.2 (h.imp fun s t brought => ?_)⟩
    rw [AtVolume, if_neg below.not_ge] at brought
    obtain ⟨x', same, scaled⟩ := brought
    obtain rfl := Except.ok.inj (ratio.symm.trans same)
    exact scaled
  case ordered =>
    rintro ⟨s, s'⟩ mem ⟨t, t'⟩ mem' le
    obtain ⟨⟨-, small⟩, brought⟩ := List.forall₂_zip each mem
    obtain ⟨⟨-, small'⟩, brought'⟩ := List.forall₂_zip each mem'
    exact brought.mono brought' le small small'
  case silent =>
    intro silent t mem
    obtain ⟨s, -, ⟨-, small⟩, brought⟩ := each.exists_of_mem_right mem
    exact brought.eq_zero silent small
  case whole =>
    intro whole
    have same : List.Forall₂ Eq a.samples samples := by
      refine h.imp fun s t brought => ?_
      rw [AtVolume, if_pos whole] at brought
      exact brought.symm
    rw [List.forall₂_eq_eq_eq] at same
    rw [← same]

theorem forall₂_natAbs_le {samples quieter louder : List Int}
    (small : ∀ s ∈ samples, s.natAbs < 2 ^ 53) (volumes : volume ≤ volume')
    (h : List.Forall₂ (AtVolume volume) samples quieter)
    (h' : List.Forall₂ (AtVolume volume') samples louder) :
    List.Forall₂ (fun t u : Int => t.natAbs ≤ u.natAbs) quieter louder := by
  induction h generalizing louder with
  | nil =>
    cases h'
    exact .nil
  | cons brought _ ih =>
    cases h' with
    | cons brought' later =>
      obtain ⟨here, small⟩ := List.forall_mem_cons.1 small
      exact .cons (brought.natAbs_le brought' volumes here) (ih small later)

/-- **The output volume only attenuates.**  Audio of one, two or four bytes a sample has a
counterpart of the same format at every volume.  Each sample goes toward zero, or stays, and not
beyond it, so that the range of the width cuts nothing off; samples keep their order; none is
left at volume 0 and all at 100 per cent; and none is further from zero than at a greater
volume. -/
theorem exists_attenuated (a : Audio) (widths : a.sampleWidth ∈ [1, 2, 4])
    (fit : ∀ s ∈ a.samples, Fits a.sampleWidth s) (volume : Int) :
    ∃ b, a.attenuate volume = .ok b ∧ Attenuated volume a b ∧
      ∀ louder c, volume ≤ louder → a.attenuate louder = .ok c →
        List.Forall₂ (fun t u : Int => t.natAbs ≤ u.natAbs) b.samples c.samples := by
  have sampled : a.Sampled := fun s mem => ⟨fit s mem, (fit s mem).small widths⟩
  obtain ⟨samples, ok, brought⟩ := attenuate_of_sampled sampled volume
  refine ⟨_, ok, attenuated_of_atVolume sampled brought, fun louder c le ok' => ?_⟩
  obtain ⟨samples', same, brought'⟩ := attenuate_of_sampled sampled louder
  obtain rfl := Except.ok.inj (same.symm.trans ok')
  exact forall₂_natAbs_le (fun s mem => (sampled s mem).2) le brought brought'

/-- Stereo with the least and the greatest sample of two bytes, at half the volume: halves go to
the even neighbour. -/
theorem exists_attenuated_stereo :
    let a : Audio := { frameRate := 8000, channels := 2, samples := [-32768, 32767, 3, -3, 1, 0] }
    let b : Audio := { a with samples := [-16384, 16384, 2, -2, 0, 0] }
    (a.sampleWidth ∈ [1, 2, 4] ∧ ∀ s ∈ a.samples, Fits a.sampleWidth s) ∧
      a.attenuate 50 = .ok b ∧ Attenuated 50 a b ∧
      List.Forall₂ (fun t u : Int => t.natAbs ≤ u.natAbs) b.samples a.samples := by
  intro a b
  have widths : a.sampleWidth ∈ [1, 2, 4] := by decide
  have fit : ∀ s ∈ a.samples, Fits a.sampleWidth s := by
    unfold Fits
    decide +kernel
  have half : a.attenuate 50 = .ok b := by decide +kernel
  obtain ⟨b', ok, attenuated, quieter⟩ := exists_attenuated a widths fit 50
  obtain rfl := Except.ok.inj (half.symm.trans ok)
  exact ⟨⟨widths, fit⟩, half, attenuated, quieter 100 a (by decide) rfl⟩

end Audio
end Recital
