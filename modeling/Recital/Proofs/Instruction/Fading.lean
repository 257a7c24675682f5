/-
# The volumes of a fading loop

Over the rounds of a loop a volume is scaled by one factor after another.  Every step from the
number of the round to the volume keeps the order: the quotient, the product, the sum with a
half, each of them rounded, and the whole part.  So a greater share of a greater volume is no
less (`exists_scaleVolume_le`), and of `n` rounds

| round | fading in | fading out |
| --- | --- | --- |
| first | the least volume | the volume itself |
| `k`, from 0 | `(k + 1) / n` of it | `(n - k) / n` of it |
| last | the volume itself | the least volume |

The two have the same shares in opposite orders (`exists_schedules`).
-/

import Recital.Proofs.Binary64.Order
import Recital.Proofs.Instruction.Scaling

namespace Recital

open Binary64 (AtMost UpTo)

/-- The volumes that a volume is scaled to in the rounds of a loop. -/
def Fade.volumes (fade : Fade) (count : Nat) (volume : Int) : Except Binary64.Fault (List Int) :=
  (List.range count).mapM fun k : Nat => do
    let factor ← fade.factor k count
    scaleVolume volume factor

/-- **A greater volume scaled by a greater factor** is no less. -/
theorem exists_scaleVolume_le {factor factor' : Binary64} (le : AtMost factor factor')
    (upTo : UpTo 1 factor') {v w : Dial.Level .outputVolume} (h : v ≤ w) :
    ∃ a b : Dial.Level .outputVolume, scaleVolume v.val factor = .ok (a.val : Int) ∧
      scaleVolume w.val factor' = .ok (b.val : Int) ∧ a ≤ b := by
  obtain ⟨a, scales⟩ := exists_scaleVolume (le.upTo upTo) v
  obtain ⟨b, scales'⟩ := exists_scaleVolume upTo w
  refine ⟨a, b, scales, scales', ?_⟩
  have w_le : w.val ≤ 100 := Nat.le_of_lt_succ w.isLt
  obtain ⟨x, y, whole, whole', ordered, bounded⟩ :=
    Binary64.exists_ofInt_le (show v.val ≤ w.val from h) (show w.val < 2 ^ 53 by omega)
  have first : UpTo ((w.val : Nat) * 2 ^ (0 : Int)) y := by simpa using bounded
  have small : w.val < 2 ^ 53 := by omega
  have products : AtMost (x.mul factor) (y.mul factor') :=
    ordered.mul le first upTo small (by decide) (by decide)
  have half : AtMost Binary64.half Binary64.half := ⟨_, _, rfl, _, _, rfl, le_rfl⟩
  have product := first.mul upTo small (by decide) (by decide)
  have sums : AtMost ((x.mul factor).add .half) ((y.mul factor').add .half) := by
    refine products.add half product Binary64.upTo_half (b := 2 * w.val + 1) (t := -1) ?_
      (by omega) (by decide) (by decide)
    push_cast
    rw [zpow_neg_one]
    linarith
  obtain ⟨m, n, truncated, truncated', m_le⟩ := sums.truncate
  have same : scaleVolume v.val factor = .ok (m : Int) := by
    rw [scaleVolume, whole]
    exact truncated
  have same' : scaleVolume w.val factor' = .ok (n : Int) := by
    rw [scaleVolume, whole']
    exact truncated'
  rw [scales] at same
  rw [scales'] at same'
  have a_eq : a.val = m := Int.ofNat.inj (Except.ok.inj same)
  have b_eq : b.val = n := Int.ofNat.inj (Except.ok.inj same')
  show a.val ≤ b.val
  omega

/-- The ratio of a number to itself is 1. -/
theorem Binary64.ofRatio_self {n : Nat} (positive : 0 < n) : ofRatio n n = .ok one := by
  have magnitude : binaryMagnitude n n = 0 := by
    simp [binaryMagnitude, scaleDown, powerOfTwo_eq]
  have exponent : gridExponent n n = -52 := by
    rw [gridExponent, magnitude]
    rfl
  have steps : gridSteps n n = powerOfTwo 52 := by
    rw [gridSteps, exponent]
    show roundHalfEven (n * powerOfTwo 52) n = powerOfTwo 52
    rw [roundHalfEven, Nat.mul_mod_right, Nat.mul_div_cancel_left _ positive, if_pos (by omega)]
  have rounded : ofQuotient false n n = one := by
    rw [ofQuotient_eq_carry positive.ne', steps, exponent]
    decide
  rw [ofRatio_natCast positive, rounded]
  rfl

/-! ### Shares -/

/-- A volume scaled to `k` parts of `n`. -/
def scaledShare (n k : Nat) (volume : Int) : Except Binary64.Fault Int := do
  let factor ← Binary64.ofRatio k n
  scaleVolume volume factor

/-- A greater share of a greater volume is no less. -/
theorem exists_scaledShare_le {k l n : Nat} (le : k ≤ l) (le' : l ≤ n) (positive : 0 < n)
    {v w : Dial.Level .outputVolume} (h : v ≤ w) :
    ∃ a b : Dial.Level .outputVolume, scaledShare n k v.val = .ok (a.val : Int) ∧
      scaledShare n l w.val = .ok (b.val : Int) ∧ a ≤ b := by
  obtain ⟨x, y, ratio, ratio', ordered, upTo⟩ := Binary64.exists_ofRatio_le le le' positive
  obtain ⟨a, b, scales, scales', a_le⟩ := exists_scaleVolume_le ordered upTo h
  refine ⟨a, b, ?_, ?_, a_le⟩
  · rw [scaledShare, ratio]
    exact scales
  · rw [scaledShare, ratio']
    exact scales'

/-- All parts of a volume are the volume itself. -/
theorem scaledShare_self {n : Nat} (positive : 0 < n) (v : Dial.Level .outputVolume) :
    scaledShare n n v.val = .ok (v.val : Int) := by
  rw [scaledShare, Binary64.ofRatio_self positive]
  exact scaleVolume_one v

/-- The shares of volumes, as levels: they grow with the number of parts and with the volume, up
to the volume itself. -/
theorem exists_shares {n : Nat} (positive : 0 < n) :
    ∃ share : Nat → Dial.Level .outputVolume → Dial.Level .outputVolume,
      (∀ k ≤ n, ∀ v, scaledShare n k v.val = .ok ((share k v).val : Int)) ∧
      (∀ k l, k ≤ l → l ≤ n → ∀ v w, v ≤ w → share k v ≤ share l w) ∧
      ∀ v, share n v = v := by
  have exist : ∀ (k : Nat) (v : Dial.Level .outputVolume), ∃ level : Dial.Level .outputVolume,
      k ≤ n → scaledShare n k v.val = .ok (level.val : Int) := by
    intro k v
    by_cases le : k ≤ n
    · obtain ⟨a, -, scales, -⟩ := exists_scaledShare_le le_rfl le positive (le_refl v)
      exact ⟨a, fun _ => scales⟩
    · exact ⟨v, fun h => absurd h le⟩
  choose share scales using exist
  refine ⟨share, fun k le v => scales k v le, ?_, ?_⟩
  · intro k l le le' v w h
    obtain ⟨a, b, scaled, scaled', a_le⟩ := exists_scaledShare_le le le' positive h
    rw [scales k v (le.trans le')] at scaled
    rw [scales l w le'] at scaled'
    have a_eq : (share k v).val = a.val := Int.ofNat.inj (Except.ok.inj scaled)
    have b_eq : (share l w).val = b.val := Int.ofNat.inj (Except.ok.inj scaled')
    rwa [Fin.ext a_eq, Fin.ext b_eq]
  · intro v
    have whole := (scales n v le_rfl).symm.trans (scaledShare_self positive v)
    exact Fin.ext (Int.ofNat.inj (Except.ok.inj whole))

/-! ### Rounds -/

/-- In round `k` of a loop that fades in, `k + 1` parts are left of a volume. -/
theorem scaledShare_fadeIn (count k : Nat) (volume : Int) :
    (Fade.fadeIn.factor k count >>= scaleVolume volume) = scaledShare count (k + 1) volume := rfl

/-- In round `k` of a loop that fades out, `k` parts are gone. -/
theorem scaledShare_fadeOut {count k : Nat} (le : k ≤ count) (volume : Int) :
    (Fade.fadeOut.factor k count >>= scaleVolume volume) =
      scaledShare count (count - k) volume := by
  rw [Fade.factor, ← Nat.cast_sub le]
  rfl

/-- Whether volumes are those that a volume is scaled to by a loop that fades in, and in the
opposite order by one that fades out; and whether they rise to the volume. -/
structure Fade.Schedule (count : Nat) (v : Dial.Level .outputVolume)
    (rising : List (Dial.Level .outputVolume)) : Prop where
  fadeIn : Fade.fadeIn.volumes count v.val = .ok (rising.map fun level => (level.val : Int))
  fadeOut : Fade.fadeOut.volumes count v.val =
    .ok (rising.reverse.map fun level => (level.val : Int))
  length : rising.length = count
  le : ∀ level ∈ rising, level ≤ v
  sorted : rising.Pairwise (· ≤ ·)
  last : rising.getLast? = some v

/-- **The volumes of a fading loop.**  Whatever the number of rounds, the volumes that a volume
fades in through lie between 0 and the volume, never fall, and end at the volume itself; fading
out goes through them in the opposite order; and in each round a greater volume is scaled to no
less. -/
theorem exists_schedules {count : Nat} (positive : 0 < count) :
    ∃ rising : Dial.Level .outputVolume → List (Dial.Level .outputVolume),
      (∀ v, Fade.Schedule count v (rising v)) ∧
      ∀ v w, v ≤ w → List.Forall₂ (· ≤ ·) (rising v) (rising w) := by
  obtain ⟨share, scales, mono, whole⟩ := exists_shares positive
  have succ_le : ∀ k ∈ List.range count, k + 1 ≤ count := fun k mem => List.mem_range.1 mem
  refine ⟨fun v => (List.range count).map fun k => share (k + 1) v, fun v => ?_, ?_⟩
  · constructor
    case fadeIn =>
      rw [List.map_map]
      refine Except.mapM_eq_ok_map fun k mem => ?_
      exact (scaledShare_fadeIn count k v.val).trans (scales (k + 1) (succ_le k mem) v)
    case fadeOut =>
      rw [← List.map_reverse, List.range_eq_range', List.reverse_range', List.map_map,
        List.map_map]
      refine Except.mapM_eq_ok_map fun k mem => ?_
      have lt := succ_le k mem
      have same : 0 + count - 1 - k + 1 = count - k := by omega
      rw [Function.comp_apply, Function.comp_apply, same]
      exact (scaledShare_fadeOut (by omega) v.val).trans (scales (count - k) (by omega) v)
    case length => simp
    case le =>
      intro level mem
      obtain ⟨k, inside, rfl⟩ := List.mem_map.1 mem
      calc share (k + 1) v ≤ share count v := mono _ _ (succ_le k inside) le_rfl v v le_rfl
        _ = v := whole v
    case sorted =>
      rw [List.pairwise_map]
      refine List.pairwise_lt_range.imp_of_mem fun {k l} _ mem lt => ?_
      exact mono _ _ (by omega) (succ_le l mem) v v le_rfl
    case last =>
      obtain ⟨last, rfl⟩ := Nat.exists_eq_succ_of_ne_zero positive.ne'
      simp only [List.range_succ, List.map_append, List.map_singleton, List.getLast?_concat]
      exact congrArg some (whole v)
  · intro v w h
    rw [List.forall₂_map_left_iff, List.forall₂_map_right_iff, List.forall₂_same]
    exact fun k mem => mono _ _ le_rfl (succ_le k mem) v w h

/-- Seven rounds: of the volume 5, two neighbours are the same. -/
theorem schedules_of_seven_rounds :
    0 < 7 ∧ ∃ rising : Dial.Level .outputVolume → List (Dial.Level .outputVolume),
      (∀ v, Fade.Schedule 7 v (rising v)) ∧
      (∀ v w, v ≤ w → List.Forall₂ (· ≤ ·) (rising v) (rising w)) ∧
      rising 5 = [1, 1, 2, 3, 4, 4, 5] := by
  obtain ⟨rising, schedules, ordered⟩ := exists_schedules (show 0 < 7 by decide)
  have volumes : Fade.fadeIn.volumes 7 (5 : Dial.Level .outputVolume).val =
      .ok ([1, 1, 2, 3, 4, 4, 5].map fun level : Dial.Level .outputVolume => (level.val : Int)) := by
    decide +kernel
  have same := Except.ok.inj ((schedules 5).fadeIn.symm.trans volumes)
  have injective : Function.Injective fun level : Dial.Level .outputVolume => (level.val : Int) :=
    fun a b h => Fin.ext (Int.ofNat.inj h)
  exact ⟨by decide, rising, schedules, ordered, List.map_injective_iff.2 injective same⟩

end Recital
