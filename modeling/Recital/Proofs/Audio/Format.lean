/-
# Parts of one format

Parts that follow one another are brought to one format.  Those that have the format of the first
part, and those that are mono or narrower than it, leave its format as it is:

| the part behind the first | samples |
| --- | --- |
| of the same format (`followedBy_of_sameFormat`) | as they are |
| one that fits in (`followedBy_of_fitsIn`) | converted to the format of the first |
-/

import Mathlib.Data.List.Basic
import Mathlib.Order.Lattice
import Recital.Audio.Assembly

namespace Recital
namespace Audio

/-- Whether two parts have one format. -/
structure SameFormat (a b : Audio) : Prop where
  frameRate : a.frameRate = b.frameRate
  channels : a.channels = b.channels
  sampleWidth : a.sampleWidth = b.sampleWidth

theorem SameFormat.symm {a b : Audio} (h : a.SameFormat b) : b.SameFormat a :=
  ⟨h.frameRate.symm, h.channels.symm, h.sampleWidth.symm⟩

theorem SameFormat.trans {a b c : Audio} (h : a.SameFormat b) (h' : b.SameFormat c) :
    a.SameFormat c :=
  ⟨h.frameRate.trans h'.frameRate, h.channels.trans h'.channels,
    h.sampleWidth.trans h'.sampleWidth⟩

/-- Audio in the format it has is converted to itself. -/
theorem converted_self (a : Audio) : a.converted a.channels a.sampleWidth = a.samples := by
  simp [converted]

/-- Whether a part can follow another one without changing that one's format. -/
structure FitsIn (a b : Audio) : Prop where
  frameRate : a.frameRate = b.frameRate
  channels : a.channels = b.channels ∨ a.channels = 1 ∧ 0 < b.channels
  sampleWidth : a.sampleWidth ≤ b.sampleWidth

theorem SameFormat.fitsIn {a b : Audio} (h : a.SameFormat b) : a.FitsIn b :=
  ⟨h.frameRate, .inl h.channels, h.sampleWidth.le⟩

theorem foldl_max_eq {α : Type} [LinearOrder α] {x : α} {ys : List α} (h : ∀ y ∈ ys, y ≤ x) :
    ys.foldl max x = x := by
  induction ys with
  | nil => rfl
  | cons y ys ih =>
    rw [List.foldl_cons, max_eq_left (h y List.mem_cons_self)]
    exact ih fun z mem => h z (List.mem_cons_of_mem _ mem)

theorem foldlM_jointChannels_eq {n : Nat} {channels : List Nat}
    (h : ∀ m ∈ channels, m = n ∨ m = 1 ∧ 0 < n) : channels.foldlM jointChannels n = .ok n := by
  induction channels with
  | nil => rfl
  | cons m channels ih =>
    have joint : jointChannels n m = .ok n := by
      rcases h m List.mem_cons_self with rfl | ⟨rfl, positive⟩
      · rw [jointChannels, if_pos (.inl rfl), max_self]
      · rw [jointChannels, if_pos (.inr (.inr rfl)), max_eq_left positive]
    rw [List.foldlM_cons, joint]
    exact ih fun k mem => h k (List.mem_cons_of_mem _ mem)

/-- **Parts that fit follow in the format of the first.** -/
theorem followedBy_of_fitsIn {first : Audio} {rest : List Audio}
    (h : ∀ a ∈ rest, a.FitsIn first) :
    first.followedBy rest =
      .ok { first with samples := (first :: rest).flatMap fun a =>
              a.converted first.channels first.sampleWidth } := by
  have rates : (rest.map Audio.frameRate).foldl max first.frameRate = first.frameRate :=
    foldl_max_eq (List.forall_mem_map.2 fun a mem => (h a mem).frameRate.le)
  have widths : (rest.map Audio.sampleWidth).foldl max first.sampleWidth = first.sampleWidth :=
    foldl_max_eq (List.forall_mem_map.2 fun a mem => (h a mem).sampleWidth)
  have channels : (rest.map Audio.channels).foldlM jointChannels first.channels =
      .ok first.channels :=
    foldlM_jointChannels_eq (List.forall_mem_map.2 fun a mem => (h a mem).channels)
  rw [followedBy, channels, rates, widths]
  rfl

/-- **Parts of one format are put end to end.** -/
theorem followedBy_of_sameFormat {first : Audio} {rest : List Audio}
    (h : ∀ a ∈ rest, a.SameFormat first) :
    first.followedBy rest =
      .ok { first with samples := (first :: rest).flatMap Audio.samples } := by
  have samples : (first :: rest).flatMap (fun a => a.converted first.channels first.sampleWidth) =
      (first :: rest).flatMap Audio.samples := by
    refine List.flatMap_congr fun a mem => ?_
    rcases List.mem_cons.1 mem with rfl | mem
    · exact converted_self a
    · rw [← (h a mem).channels, ← (h a mem).sampleWidth, converted_self]
  rw [followedBy_of_fitsIn fun a mem => (h a mem).fitsIn, samples]

end Audio
end Recital
