/-
# The audio of a prompt

What the engine records is decoded elsewhere, and of that no more is taken for granted than that
all recordings come out alike: in one format, with samples that fit it (`Engine.Uniform`).  Then
parts of one format are put end to end with their pauses, and samples that fit their bytes can be
brought to any volume.  So there is audio for a prompt as soon as each of its runs is heard,
whatever its volume (`Segment.exists_mix`): of all that could fail on the way from runs to audio,
only the engine and its decoder do.
-/

import Recital.Delivery.Basic
import Recital.Proofs.Audio.Layout

namespace Recital

/-- Whether an engine records in one format only, as one that keeps to one codec does: every
recording that can be decoded comes in it, with samples that fit their bytes.  The format has
channels, and room for the samples of a silence and its frames. -/
structure Engine.Uniform (engine : Engine) (format : Audio) : Prop where
  positive : 0 < format.channels
  wide : 2 ≤ format.sampleWidth
  rate : format.frameRate.natAbs ≤ 2 ^ 32
  decoded : ∀ bytes a, engine.decode bytes = .ok a → a.SameFormat format ∧ a.Sampled

namespace Audio

variable {first format : Audio} {rest heard : List Audio}

/-- Audio whose samples are bytes. -/
def ofBytes (bytes : List UInt8) : Audio := { samples := bytes.map fun b => (b.toNat : Int) }

theorem sampled_ofBytes (bytes : List UInt8) : (ofBytes bytes).Sampled := by
  intro s mem
  obtain ⟨b, -, rfl⟩ := List.mem_map.1 mem
  have small := b.toNat_lt
  have least : leastSample (ofBytes bytes).sampleWidth = -32768 := rfl
  have greatest : greatestSample (ofBytes bytes).sampleWidth = 32767 := rfl
  rw [Fits, least, greatest, Int.natAbs_natCast]
  omega

/-- Parts that fit their format still do with silences between them. -/
theorem Sampled.laidOut (sampled : first.Sampled) {parts : List (Nat × Audio)}
    (others : ∀ p ∈ parts, p.2.SameFormat first ∧ p.2.Sampled) : (first.laidOut parts).Sampled := by
  intro s mem
  rcases List.mem_append.1 mem with mem | mem
  · exact sampled s mem
  obtain ⟨p, member, mem⟩ := List.mem_flatMap.1 mem
  rcases List.mem_append.1 mem with zero | mem
  · rw [List.eq_of_mem_replicate zero]
    exact ⟨fits_zero _, by norm_num⟩
  · obtain ⟨same, fits⟩ := others p member
    have here := fits s mem
    rwa [same.sampleWidth] at here

/-- **Runs that are heard in one format can be joined.** -/
theorem exists_concatenate {runs : List Run} (length : heard.length = runs.length)
    (positive : 0 < format.channels) (wide : 2 ≤ format.sampleWidth)
    (rate : format.frameRate.natAbs ≤ 2 ^ 32)
    (alike : ∀ a ∈ heard, a.SameFormat format ∧ a.Sampled) :
    ∃ whole, concatenate runs heard = .ok whole ∧ whole.Sampled := by
  cases heard with
  | nil => exact ⟨empty, rfl, List.forall_mem_nil _⟩
  | cons first rest =>
    obtain ⟨⟨same, sampled⟩, others⟩ := List.forall_mem_cons.1 alike
    have together : ∀ a ∈ rest, a.SameFormat first ∧ a.Sampled :=
      fun a mem => ⟨(others a mem).1.trans same.symm, (others a mem).2⟩
    rw [← same.channels] at positive
    rw [← same.sampleWidth] at wide
    rw [← same.frameRate] at rate
    obtain ⟨gaps, silent⟩ := Except.exists_mapM_eq_ok
      (forall_mem_pauses (p := fun ms => ∃ gap, silence first.frameRate ms = .ok gap)
        (exists_silence_of_pause rate) runs)
    refine ⟨first.laidOut ((gaps.map frames).zip rest), ?_, sampled.laidOut fun p mem =>
      together p.2 (List.of_mem_zip mem).2⟩
    rw [concatenate_eq length.symm (fun a mem => (together a mem).1) positive wide, silent]
    rfl

end Audio

/-- An engine that records the samples themselves does so in one format. -/
theorem Engine.uniform_of_ofBytes {engine : Engine}
    (h : ∀ bytes, engine.decode bytes = .ok (.ofBytes bytes)) :
    engine.Uniform (.ofBytes []) where
  positive := Nat.one_pos
  wide := le_rfl
  rate := by decide
  decoded := by
    intro bytes a decoded
    obtain rfl := Except.ok.inj ((h bytes).symm.trans decoded)
    exact ⟨⟨rfl, rfl, rfl⟩, Audio.sampled_ofBytes bytes⟩

/-- **A prompt whose runs are heard has audio,** where the engine records in one format. -/
theorem Segment.exists_mix {engine : Engine} {format : Audio} (uniform : engine.Uniform format)
    (s : Segment) {heard : List Audio} (length : heard.length = s.runs.length)
    (decoded : ∀ a ∈ heard, ∃ bytes, engine.decode bytes = .ok a) :
    ∃ part, s.mix heard = .ok part := by
  obtain ⟨whole, joined, sampled⟩ := Audio.exists_concatenate length uniform.positive uniform.wide
    uniform.rate fun a mem => by
      obtain ⟨bytes, decoded⟩ := decoded a mem
      exact uniform.decoded bytes a decoded
  obtain ⟨samples, scaled, -⟩ := Audio.attenuate_of_sampled sampled s.volume
  refine ⟨{ whole with samples := samples }, ?_⟩
  rw [mix, joined]
  change (whole.attenuate s.volume).mapError Error.arithmetic = _
  rw [scaled]
  rfl

end Recital
