/-
# Where the samples of joined parts lie

Parts that share a format are joined with silences between them, and nothing else happens to
their samples:

| | samples |
| --- | --- |
| the first part | as they are |
| a silence of `n` frames | `channels * n` zeros |
| every other part | as they are, behind its silence |

A silence is made in mono and with two bytes for a sample, whatever the parts have.  Here it is
brought to their format all at once (`followedBy`), together with them.  The same comes out where
the parts are put behind what is there one at a time (`extended`): the frame rate of what is
there makes the silence, the silence takes on the channels and the width of the part behind it,
and the two follow.  What is there keeps its format in each step, which carries the induction
(`extended_eq`).
-/

import Mathlib.Order.Bounds.Basic
import Recital.Proofs.Audio.Attenuated
import Recital.Proofs.Audio.Format

namespace Recital
namespace Audio

/-! ### Silences -/

/-- A silence of so many frames. -/
def quiet (frameRate : Int) (count : Nat) : Audio :=
  { frameRate := frameRate, samples := List.replicate count 0 }

theorem frames_quiet (frameRate : Int) (count : Nat) : (quiet frameRate count).frames = count := by
  simp [frames, quiet]

theorem silence_eq_ok {frameRate ms : Int} {gap : Audio} (h : silence frameRate ms = .ok gap) :
    gap = quiet frameRate gap.frames := by
  obtain ⟨count, -, same⟩ := Except.bind_eq_ok.1 h
  obtain rfl : quiet frameRate count = gap := Except.ok.inj same
  rw [frames_quiet]

/-- In any format a silence is nothing but zeros. -/
theorem converted_quiet (frameRate : Int) (count channels sampleWidth : Nat) :
    (quiet frameRate count).converted channels sampleWidth =
      List.replicate (channels * count) 0 := by
  have widened : (if sampleWidth ≤ 2 then List.replicate count (0 : Int)
      else (List.replicate count 0).map (· * (powerOfTwo (8 * (sampleWidth - 2)) : Int))) =
      List.replicate count 0 := by
    split
    · rfl
    · rw [List.map_replicate, zero_mul]
  unfold converted quiet
  dsimp only
  rw [widened]
  split
  · next mono => rw [mono, one_mul]
  · rw [List.flatMap_replicate, List.flatten_replicate_replicate, mul_comm]

theorem fitsIn_quiet {a : Audio} (positive : 0 < a.channels) (wide : 2 ≤ a.sampleWidth)
    (count : Nat) : (quiet a.frameRate count).FitsIn a :=
  ⟨rfl, .inr ⟨rfl, positive⟩, wide⟩

/-! ### All at once -/

/-- Parts behind a first one, each after a gap of so many frames. -/
def laidOut (first : Audio) (parts : List (Nat × Audio)) : Audio :=
  { first with
    samples := first.samples ++
      parts.flatMap fun p => List.replicate (first.channels * p.1) 0 ++ p.2.samples }

section Format

variable {first : Audio} {rest : List Audio}

theorem laidOut_nil (first : Audio) : first.laidOut [] = first := by
  rw [laidOut, List.flatMap_nil, List.append_nil]

theorem laidOut_laidOut (p : Nat × Audio) (parts : List (Nat × Audio)) :
    (first.laidOut [p]).laidOut parts = first.laidOut (p :: parts) := by
  simp only [laidOut, List.flatMap_cons, List.flatMap_nil, List.append_nil, List.append_assoc]

theorem followedBy_gaps {parts : List (Nat × Audio)}
    (format : ∀ p ∈ parts, p.2.SameFormat first) (positive : 0 < first.channels)
    (wide : 2 ≤ first.sampleWidth) :
    first.followedBy (parts.flatMap fun p => [quiet first.frameRate p.1, p.2]) =
      .ok (first.laidOut parts) := by
  have fits : ∀ a ∈ parts.flatMap fun p => [quiet first.frameRate p.1, p.2],
      a.FitsIn first := by
    intro a mem
    obtain ⟨p, member, here⟩ := List.mem_flatMap.1 mem
    rcases List.mem_cons.1 here with rfl | here
    · exact fitsIn_quiet positive wide p.1
    · rw [List.mem_singleton.1 here]
      exact (format p member).fitsIn
  have samples : (parts.flatMap fun p => [quiet first.frameRate p.1, p.2]).flatMap
        (fun a => a.converted first.channels first.sampleWidth) =
      parts.flatMap fun p => List.replicate (first.channels * p.1) 0 ++ p.2.samples := by
    rw [List.flatMap_assoc]
    refine List.flatMap_congr fun p member => ?_
    have same := format p member
    rw [List.flatMap_cons, List.flatMap_singleton, converted_quiet, ← same.channels,
      ← same.sampleWidth, converted_self]
  rw [followedBy_of_fitsIn fits, List.flatMap_cons, converted_self, samples]
  rfl

/-- Parts joined with a fixed pause: a single part as it is, others with its silence. -/
theorem join_eq (format : ∀ a ∈ rest, a.SameFormat first) (positive : 0 < first.channels)
    (wide : 2 ≤ first.sampleWidth) (pause : Int) :
    join (first :: rest) pause =
      if rest = [] then .ok first
      else (silence first.frameRate pause).map fun gap =>
        first.laidOut (rest.map fun a => (gap.frames, a)) := by
  cases rest with
  | nil => rfl
  | cons a rest =>
    rw [if_neg (List.cons_ne_nil a rest)]
    change (silence first.frameRate pause >>= fun gap =>
      first.followedBy ((a :: rest).flatMap fun part => [gap, part])) = _
    cases silent : silence first.frameRate pause with
    | error fault => rfl
    | ok gap =>
      have parts : (a :: rest).flatMap (fun part => [gap, part]) =
          ((a :: rest).map fun part => (gap.frames, part)).flatMap fun p =>
            [quiet first.frameRate p.1, p.2] := by
        rw [List.flatMap_map]
        dsimp only
        rw [← silence_eq_ok silent]
      have formats : ∀ p ∈ (a :: rest).map fun part => (gap.frames, part),
          p.2.SameFormat first := List.forall_mem_map.2 format
      change first.followedBy _ = _
      rw [parts, followedBy_gaps formats positive wide]
      rfl

/-- Runs behind the first one, each after its pause. -/
theorem pausedRuns_eq (before : Run) {runs : List Run} (length : runs.length = rest.length)
    (format : ∀ a ∈ rest, a.SameFormat first) :
    pausedRuns first.frameRate first.channels (before :: runs) rest =
      (((Run.pauses (before :: runs)).mapM (silence first.frameRate)).mapError Error.audio).map
        fun gaps => ((gaps.map frames).zip rest).flatMap fun p =>
          [quiet first.frameRate p.1, p.2] := by
  induction runs generalizing before rest with
  | nil =>
    obtain rfl := List.length_eq_zero_iff.1 length.symm
    rfl
  | cons after runs ih =>
    cases rest with
    | nil => cases length
    | cons a rest =>
      obtain ⟨here, later⟩ := List.forall_mem_cons.1 format
      have joint : jointChannels first.channels a.channels = .ok first.channels := by
        rw [jointChannels, here.channels, if_pos (.inl rfl), max_self]
      rw [pausedRuns, Run.pauses, List.mapM_cons]
      cases silent : silence first.frameRate (before.pause after) with
      | error fault => rfl
      | ok gap =>
        rw [joint]
        change (pausedRuns first.frameRate first.channels (after :: runs) rest >>= fun more =>
          Except.ok (gap :: a :: more)) = _
        rw [ih after (Nat.succ.inj length) later]
        cases (Run.pauses (after :: runs)).mapM (silence first.frameRate) with
        | error fault => rfl
        | ok gaps =>
          change Except.ok (gap :: a :: _) = Except.ok ((quiet first.frameRate gap.frames :: _))
          rw [← silence_eq_ok silent]
          rfl

/-- Runs joined with the pauses that stand between them. -/
theorem concatenate_eq {runs : List Run} (length : runs.length = rest.length + 1)
    (format : ∀ a ∈ rest, a.SameFormat first) (positive : 0 < first.channels)
    (wide : 2 ≤ first.sampleWidth) :
    concatenate runs (first :: rest) =
      (((Run.pauses runs).mapM (silence first.frameRate)).mapError Error.audio).map fun gaps =>
        first.laidOut ((gaps.map frames).zip rest) := by
  cases runs with
  | nil => cases length
  | cons before runs =>
    rw [concatenate, pausedRuns_eq before (Nat.succ.inj length) format]
    cases (Run.pauses (before :: runs)).mapM (silence first.frameRate) with
    | error fault => rfl
    | ok gaps =>
      have formats : ∀ p ∈ (gaps.map frames).zip rest, p.2.SameFormat first :=
        fun p mem => format p.2 (List.of_mem_zip mem).2
      change (first.followedBy _).mapError Error.audio = _
      rw [followedBy_gaps formats positive wide]
      rfl

/-! ### One at a time -/

/-- Parts put behind what is there one at a time, each after a silence at the frame rate of what
is there. -/
def extended (whole : Audio) : List (Int × Audio) → Except Fault Audio
  | [] => .ok whole
  | (pause, part) :: parts => do
    let gap ← silence whole.frameRate pause
    let behind ← gap.followedBy [part]
    let longer ← whole.followedBy [behind]
    longer.extended parts

/-- A silence takes on the format of the part behind it. -/
theorem quiet_followedBy {part : Audio} (positive : 0 < part.channels)
    (wide : 2 ≤ part.sampleWidth) (count : Nat) :
    (quiet part.frameRate count).followedBy [part] =
      .ok { part with samples := List.replicate (part.channels * count) 0 ++ part.samples } := by
  have channels : [part.channels].foldlM jointChannels (quiet part.frameRate count).channels =
      .ok part.channels := by
    change (jointChannels 1 part.channels >>= Except.ok) = _
    rw [jointChannels, if_pos (.inr (.inl rfl)), max_eq_right positive]
    rfl
  have width : [part.sampleWidth].foldl max (quiet part.frameRate count).sampleWidth =
      part.sampleWidth := max_eq_right wide
  have rate : [part.frameRate].foldl max (quiet part.frameRate count).frameRate =
      part.frameRate := max_self _
  rw [followedBy, List.map_singleton, List.map_singleton, List.map_singleton, channels, width,
    rate]
  change Except.ok { part with samples := _ } = _
  rw [List.flatMap_cons, List.flatMap_singleton, converted_quiet, converted_self]

/-- **One part more:** what is there takes on its silence and the part, and keeps its format. -/
theorem extended_cons {gap part : Audio} {pause : Int} (same : part.SameFormat first)
    (positive : 0 < first.channels) (wide : 2 ≤ first.sampleWidth)
    (silent : silence first.frameRate pause = .ok gap) (parts : List (Int × Audio)) :
    first.extended ((pause, part) :: parts) =
      (first.laidOut [(gap.frames, part)]).extended parts := by
  let behind : Audio :=
    { part with samples := List.replicate (part.channels * gap.frames) 0 ++ part.samples }
  have gapped : gap.followedBy [part] = .ok behind := by
    have quietly : gap = quiet part.frameRate gap.frames := by
      rw [same.frameRate]
      exact silence_eq_ok silent
    exact (congrArg (followedBy · [part]) quietly).trans
      (quiet_followedBy (same.channels ▸ positive) (same.sampleWidth ▸ wide) gap.frames)
  have followed : first.followedBy [behind] = .ok (first.laidOut [(gap.frames, part)]) := by
    have format : behind.SameFormat first := ⟨same.frameRate, same.channels, same.sampleWidth⟩
    rw [followedBy_of_sameFormat (List.forall_mem_singleton.2 format)]
    simp only [laidOut, behind, List.flatMap_cons, List.flatMap_nil, List.append_nil,
      same.channels]
  rw [extended, silent]
  change (gap.followedBy [part] >>= fun behind => first.followedBy [behind] >>= fun longer =>
    longer.extended parts) = _
  rw [gapped]
  change (first.followedBy [behind] >>= fun longer => longer.extended parts) = _
  rw [followed]
  rfl

/-- **Parts that are put behind what is there** come to lie behind it in order. -/
theorem extended_eq {parts : List (Int × Audio)} (format : ∀ p ∈ parts, p.2.SameFormat first)
    (positive : 0 < first.channels) (wide : 2 ≤ first.sampleWidth) :
    first.extended parts =
      ((parts.map Prod.fst).mapM (silence first.frameRate)).map fun gaps =>
        first.laidOut ((gaps.map frames).zip (parts.map Prod.snd)) := by
  -- The induction is for all that may be there, since what is there grows with each part.
  induction parts generalizing first with
  | nil =>
    change Except.ok first = Except.ok (first.laidOut [])
    rw [laidOut_nil]
  | cons p parts ih =>
    obtain ⟨pause, part⟩ := p
    obtain ⟨here, later⟩ := List.forall_mem_cons.1 format
    rw [List.map_cons, List.map_cons, List.mapM_cons]
    cases silent : silence first.frameRate pause with
    | error fault =>
      rw [extended, silent]
      rfl
    | ok gap =>
      have formats : ∀ p ∈ parts, p.2.SameFormat (first.laidOut [(gap.frames, part)]) :=
        fun p mem => ⟨(later p mem).frameRate, (later p mem).channels, (later p mem).sampleWidth⟩
      rw [extended_cons here positive wide silent, ih formats positive wide]
      change ((parts.map Prod.fst).mapM (silence first.frameRate)).map _ = _
      cases (parts.map Prod.fst).mapM (silence first.frameRate) with
      | error fault => rfl
      | ok gaps => exact congrArg Except.ok (laidOut_laidOut _ _)

/-- Joining puts the parts behind the first one, one at a time. -/
theorem join_eq_extended (format : ∀ a ∈ rest, a.SameFormat first) (positive : 0 < first.channels)
    (wide : 2 ≤ first.sampleWidth) (pause : Int) :
    join (first :: rest) pause = first.extended (rest.map fun a => (pause, a)) := by
  have formats : ∀ p ∈ rest.map fun a => (pause, a), p.2.SameFormat first :=
    List.forall_mem_map.2 format
  rw [join_eq format positive wide, extended_eq formats positive wide, List.map_map, List.map_map]
  change _ = ((rest.map fun _ => pause).mapM (silence first.frameRate)).map fun gaps =>
    first.laidOut ((gaps.map frames).zip (rest.map id))
  rw [List.map_id]
  cases rest with
  | nil =>
    change Except.ok first = Except.ok (first.laidOut [])
    rw [laidOut_nil]
  | cons a rest =>
    rw [if_neg (List.cons_ne_nil a rest)]
    cases silent : silence first.frameRate pause with
    | error fault =>
      rw [List.map_cons, List.mapM_cons, silent]
      rfl
    | ok gap =>
      have gaps : ((a :: rest).map fun _ => pause).mapM (silence first.frameRate) =
          .ok ((a :: rest).map fun _ => gap) := by
        rw [Except.mapM_eq_ok, List.forall₂_map_left_iff, List.forall₂_map_right_iff]
        exact List.forall₂_same.2 fun _ _ => silent
      have lengths : (((a :: rest).map fun _ => gap).map frames).zip (a :: rest) =
          (a :: rest).map fun part => (gap.frames, part) := by
        rw [List.map_map]
        exact List.map_prod_right_eq_zip.symm
      rw [gaps]
      exact congrArg (fun parts => Except.ok (first.laidOut parts)) lengths.symm

theorem length_pauses {n : Nat} {runs : List Run} (length : runs.length = n + 1) :
    (Run.pauses runs).length = n := by
  induction runs generalizing n with
  | nil => cases length
  | cons before runs ih =>
    obtain rfl := Nat.succ.inj length
    cases runs with
    | nil => rfl
    | cons after runs => exact congrArg Nat.succ (ih rfl)

/-- Joining runs puts their parts behind the first one, one at a time. -/
theorem concatenate_eq_extended {runs : List Run} (length : runs.length = rest.length + 1)
    (format : ∀ a ∈ rest, a.SameFormat first) (positive : 0 < first.channels)
    (wide : 2 ≤ first.sampleWidth) :
    concatenate runs (first :: rest) =
      (first.extended ((Run.pauses runs).zip rest)).mapError Error.audio := by
  have same := length_pauses length
  have formats : ∀ p ∈ (Run.pauses runs).zip rest, p.2.SameFormat first :=
    fun p mem => format p.2 (List.of_mem_zip mem).2
  rw [concatenate_eq length format positive wide, extended_eq formats positive wide,
    List.map_fst_zip same.le, List.map_snd_zip same.ge]
  cases (Run.pauses runs).mapM (silence first.frameRate) with
  | error fault => rfl
  | ok gaps => rfl

end Format

/-! ### Silences there are -/

theorem ofInt_thousand :
    Binary64.ofInt 1000 = .ok (.finite false (1000 * 2 ^ 43) (-43)) := by
  decide +kernel

/-- Rounding keeps the frames of a silence up to those of a whole number of seconds. -/
theorem exists_roundedFrames {rate ms : Int} {limit : Nat} (short : ms.natAbs < 2 ^ 53)
    (room : rate.natAbs * (ms.natAbs / 1000 + 1) ≤ limit) (significand : limit < 2 ^ 53) :
    ∃ n, roundedFrames rate ms = .ok n ∧ n.natAbs ≤ limit := by
  have slow : rate.natAbs < 2 ^ 53 :=
    ((Nat.le_mul_of_pos_right _ (Nat.succ_pos _)).trans room).trans_lt significand
  obtain ⟨length, whole, lengthBound⟩ := Binary64.exists_ofInt short
  obtain ⟨frames, perSecond, framesBound⟩ := Binary64.exists_ofInt slow
  have seconds : (ms.natAbs : ℚ) / ((1000 * 2 ^ 43 : Nat) * 2 ^ (-43 : Int)) ≤
      (ms.natAbs / 1000 + 1 : Nat) := by
    have thousand : ((1000 * 2 ^ 43 : Nat) : ℚ) * 2 ^ (-43 : Int) = 1000 := by norm_num
    rw [thousand, div_le_iff₀ (by norm_num)]
    exact_mod_cast (by omega : ms.natAbs ≤ (ms.natAbs / 1000 + 1) * 1000)
  obtain ⟨quotient, divided, quotientBound⟩ :=
    lengthBound.div_of_le (by norm_num) seconds (by omega)
  have product : (rate.natAbs : ℚ) * (ms.natAbs / 1000 + 1 : Nat) ≤ limit := by
    exact_mod_cast room
  obtain ⟨n, truncated, bounded⟩ :=
    (framesBound.mul_of_le quotientBound product significand).truncate_magnitude
  refine ⟨n, ?_, bounded⟩
  rw [roundedFrames, whole, ofInt_thousand, perSecond]
  change (length.div _ >>= fun seconds => (frames.mul seconds).truncate) = _
  rw [divided]
  exact truncated

/-- **There is a silence** of any length that comes to no more frames than memory is given to. -/
theorem exists_silence_of_room {rate ms : Int} (short : ms.natAbs < 2 ^ 53)
    (room : rate.natAbs * (ms.natAbs / 1000 + 1) ≤ 2 ^ 32) : ∃ gap, silence rate ms = .ok gap := by
  obtain ⟨n, rounded, bounded⟩ := exists_roundedFrames short room (by norm_num)
  have counted : silentFrames rate ms = .ok n.toNat := by
    have count : countBound = 2 ^ 63 := by decide +kernel
    have limit : frameLimit = 2 ^ 32 := by decide +kernel
    rw [silentFrames, rounded]
    change (if _ then _ else if _ then _ else if _ then _ else _) = _
    rw [count, limit, if_neg (by omega), if_neg (by omega), if_neg (by omega)]
  exact ⟨_, by rw [silence, counted]; rfl⟩

/-- The pauses between runs are of three lengths. -/
theorem pause_cases (before after : Run) :
    before.pause after = 150 ∨ before.pause after = 375 ∨ before.pause after = 700 := by
  rw [Run.pause]
  rcases after.boundary with _ | _ | _ <;> split_ifs <;> simp

theorem exists_silence_of_pause {rate : Int} (rates : rate.natAbs ≤ 2 ^ 32) (before after : Run) :
    ∃ gap, silence rate (before.pause after) = .ok gap := by
  rcases pause_cases before after with ms | ms | ms <;> rw [ms]
  all_goals exact exists_silence_of_room (by norm_num) (by norm_num; omega)

/-- Every pause between runs is one between two neighbours. -/
theorem forall_mem_pauses {p : Int → Prop} (h : ∀ before after : Run, p (before.pause after))
    (runs : List Run) : ∀ ms ∈ Run.pauses runs, p ms := by
  induction runs with
  | nil => exact fun ms mem => nomatch mem
  | cons before runs ih =>
    cases runs with
    | nil => exact fun ms mem => nomatch mem
    | cons after runs => exact List.forall_mem_cons.2 ⟨h before after, ih⟩

/-! ### Pauses -/

/-- The pause at a place stands between the runs at that place and at the next one. -/
theorem getElem?_pauses {runs : List Run} {i : Nat} {before after : Run}
    (here : runs[i]? = some before) (next : runs[i + 1]? = some after) :
    (Run.pauses runs)[i]? = some (before.pause after) := by
  induction runs generalizing i with
  | nil => cases here
  | cons first runs ih =>
    cases runs with
    | nil => cases next
    | cons second runs =>
      cases i with
      | zero =>
        obtain rfl := Option.some.inj here
        obtain rfl := Option.some.inj next
        rfl
      | succ i => exact ih here next

/-- **The pause is the longest of those that apply.** -/
theorem isGreatest_pause (before after : Run) :
    IsGreatest {ms | ms = 150 ∨ (ms = 375 ∧ before.voice ≠ after.voice) ∨
      (ms = 375 ∧ after.boundary = some .sentence) ∨
      (ms = 700 ∧ after.boundary = some .paragraph)} (before.pause after) := by
  refine ⟨?_, ?_⟩
  · rw [Run.pause, Set.mem_ofPred_eq]
    rcases boundary : after.boundary with _ | _ | _ <;>
      by_cases voice : before.voice = after.voice <;> simp [voice]
  · rintro ms (rfl | ⟨rfl, voice⟩ | ⟨rfl, boundary⟩ | ⟨rfl, boundary⟩)
    · exact le_max_left ..
    · rw [Run.pause, if_neg voice]
      exact le_max_of_le_right (le_max_left ..)
    · rw [Run.pause, boundary]
      exact le_max_of_le_right (le_max_right ..)
    · rw [Run.pause, boundary]
      exact le_max_of_le_right (le_max_right ..)

/-! ### Frames -/

theorem frames_laidOut_one {first : Audio} {p : Nat × Audio} (positive : 0 < first.channels)
    (channels : p.2.channels = first.channels) (full : first.channels ∣ first.samples.length)
    (filled : first.channels ∣ p.2.samples.length) :
    first.channels ∣ (first.laidOut [p]).samples.length ∧
      (first.laidOut [p]).frames = first.frames + (p.1 + p.2.frames) := by
  obtain ⟨m, length⟩ := full
  obtain ⟨n, length'⟩ := filled
  have whole : (first.laidOut [p]).samples.length = first.channels * (m + (p.1 + n)) := by
    rw [laidOut, List.flatMap_singleton, List.length_append, List.length_append,
      List.length_replicate, length, length']
    ring
  refine ⟨⟨_, whole⟩, ?_⟩
  rw [frames, whole, frames, frames, length, length', channels]
  change first.channels * _ / first.channels = _
  rw [Nat.mul_div_cancel_left _ positive, Nat.mul_div_cancel_left _ positive,
    Nat.mul_div_cancel_left _ positive]

/-- **No time is lost:** joined parts are as long as they and their gaps together. -/
theorem frames_laidOut {first : Audio} {parts : List (Nat × Audio)} (positive : 0 < first.channels)
    (channels : ∀ p ∈ parts, p.2.channels = first.channels)
    (full : first.channels ∣ first.samples.length)
    (filled : ∀ p ∈ parts, first.channels ∣ p.2.samples.length) :
    (first.laidOut parts).frames = first.frames + (parts.map fun p => p.1 + p.2.frames).sum := by
  induction parts generalizing first with
  | nil => rw [laidOut_nil, List.map_nil, List.sum_nil, Nat.add_zero]
  | cons p parts ih =>
    obtain ⟨here, later⟩ := List.forall_mem_cons.1 channels
    obtain ⟨filledHere, filledLater⟩ := List.forall_mem_cons.1 filled
    obtain ⟨longer, one⟩ := frames_laidOut_one positive here full filledHere
    have more : ((first.laidOut [p]).laidOut parts).frames =
        (first.laidOut [p]).frames + (parts.map fun p => p.1 + p.2.frames).sum :=
      ih positive later longer filledLater
    rw [← laidOut_laidOut, more, one, List.map_cons, List.sum_cons, Nat.add_assoc]

/-! ### The layout -/

section Layout

variable {first : Audio} {rest : List Audio}

/-- **Joined audio keeps every sample in order.**  Parts in one format come to lie behind the
first one, each after a gap of zeros and nothing else, as they do when they are put there one at a
time.  With a fixed pause every gap is a silence of that length; between runs it is one of the
longest pause that applies to its two neighbours, and there always is such a silence at the frame
rates there are.  The whole lasts as long as its parts and its gaps together. -/
theorem joined_layout (format : ∀ a ∈ rest, a.SameFormat first) (positive : 0 < first.channels)
    (wide : 2 ≤ first.sampleWidth) :
    (∀ pause : Int,
      join (first :: rest) pause =
        (if rest = [] then .ok first
          else (silence first.frameRate pause).map fun gap =>
            first.laidOut (rest.map fun a => (gap.frames, a))) ∧
      join (first :: rest) pause = first.extended (rest.map fun a => (pause, a)) ∧
      (pause.natAbs < 2 ^ 53 → first.frameRate.natAbs * (pause.natAbs / 1000 + 1) ≤ 2 ^ 32 →
        ∃ gap, silence first.frameRate pause = .ok gap)) ∧
    (∀ runs : List Run, runs.length = rest.length + 1 →
      concatenate runs (first :: rest) =
        ((((Run.pauses runs).mapM (silence first.frameRate)).mapError Error.audio).map
          fun gaps => first.laidOut ((gaps.map frames).zip rest)) ∧
      concatenate runs (first :: rest) =
        (first.extended ((Run.pauses runs).zip rest)).mapError Error.audio ∧
      (Run.pauses runs).length = rest.length ∧
      (∀ (i : Nat) (before after : Run), runs[i]? = some before → runs[i + 1]? = some after →
        ∃ pause : Int, (Run.pauses runs)[i]? = some pause ∧
          IsGreatest {ms | ms = 150 ∨ (ms = 375 ∧ before.voice ≠ after.voice) ∨
            (ms = 375 ∧ after.boundary = some .sentence) ∨
            (ms = 700 ∧ after.boundary = some .paragraph)} pause) ∧
      (first.frameRate.natAbs ≤ 2 ^ 32 →
        ∃ gaps, (Run.pauses runs).mapM (silence first.frameRate) = .ok gaps)) ∧
    (∀ gaps : List Nat, (∀ a ∈ first :: rest, first.channels ∣ a.samples.length) →
      (first.laidOut (gaps.zip rest)).frames =
        first.frames + ((gaps.zip rest).map fun p => p.1 + p.2.frames).sum) := by
  refine ⟨fun pause => ⟨join_eq format positive wide pause,
      join_eq_extended format positive wide pause, exists_silence_of_room⟩,
    fun runs length => ⟨concatenate_eq length format positive wide,
      concatenate_eq_extended length format positive wide, length_pauses length, ?_, ?_⟩, ?_⟩
  · intro i before after here next
    exact ⟨_, getElem?_pauses here next, isGreatest_pause before after⟩
  · intro rates
    exact Except.exists_mapM_eq_ok (forall_mem_pauses (exists_silence_of_pause rates) runs)
  · intro gaps full
    obtain ⟨fullFirst, fullRest⟩ := List.forall_mem_cons.1 full
    exact frames_laidOut positive (fun p mem => (format p.2 (List.of_mem_zip mem).2).channels)
      fullFirst fun p mem => fullRest p.2 (List.of_mem_zip mem).2

/-- Two parts in stereo, with a fixed pause and with the one of a sentence boundary. -/
theorem joined_layout_stereo :
    let first : Audio := { frameRate := 8, channels := 2, sampleWidth := 4, samples := [1, -2] }
    let second : Audio := { first with samples := [3, 4, 5, 6] }
    let runs : List Run := [⟨"a", none, {}, none⟩, ⟨"b", none, {}, some .sentence⟩]
    (∀ a ∈ [second], a.SameFormat first) ∧ 0 < first.channels ∧ 2 ≤ first.sampleWidth ∧
      join [first, second] 525 =
        .ok { first with samples := [1, -2, 0, 0, 0, 0, 0, 0, 0, 0, 3, 4, 5, 6] } ∧
      concatenate runs [first, second] =
        .ok { first with samples := [1, -2, 0, 0, 0, 0, 0, 0, 3, 4, 5, 6] } := by
  intro first second runs
  have format : ∀ a ∈ [second], a.SameFormat first :=
    List.forall_mem_singleton.2 ⟨rfl, rfl, rfl⟩
  have positive : 0 < first.channels := by decide
  have wide : 2 ≤ first.sampleWidth := by decide
  have gap : silence first.frameRate 525 = .ok (quiet 8 4) := by decide +kernel
  have gaps : (Run.pauses runs).mapM (silence first.frameRate) = .ok [quiet 8 3] :=
    Except.mapM_eq_ok.2 (.cons (by decide +kernel) .nil)
  obtain ⟨fixed, paused, -⟩ := joined_layout format positive wide
  have joined := (fixed 525).1
  have concatenated := (paused runs rfl).1
  rw [if_neg (List.cons_ne_nil _ _), gap] at joined
  rw [gaps] at concatenated
  exact ⟨format, positive, wide, joined, concatenated⟩

end Layout

end Audio
end Recital
