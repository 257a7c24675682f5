/-
# Audio

Audio is a sequence of samples with a format: frames per second, samples per frame,
and bytes per sample.  Parts that follow one another are brought to the greatest of
each of the three first: a mono part is copied to every channel, and a narrower sample
is scaled by the weight of the bytes that are added below it.  For another number of
frames per second a part would be sampled anew; that is left out here, where the number
is taken over and the samples stay as they are.  Samples that do not fill their last
frame are no audio.

A number of frames per second need not be positive.  The length in time is a
quotient by it, so it has to be other than zero wherever the length is asked for, and
a length below zero is refused.
-/

import Recital.Binary64.Basic

namespace Recital

/-- Samples, interleaved by channel, and their format. -/
structure Audio where
  frameRate : Int := 11025
  channels : Nat := 1
  sampleWidth : Nat := 2
  samples : List Int
  deriving DecidableEq

namespace Audio

/-- Why there is no audio, or none of a length. -/
inductive Fault where
  | noChannels
  | brokenFrame
  | channelMismatch
  | arithmetic (fault : Binary64.Fault)
  | negativeLength
  | countTooLarge
  | silenceTooLong
  | outOfMemory
  deriving DecidableEq

/-- The wording of a fault. -/
def Fault.message : Fault → String
  | .noChannels => "integer modulo by zero"
  | .brokenFrame => "data length must be a multiple of '(sample_width * channels)'"
  | .channelMismatch =>
    "AudioSegment.set_channels only supports mono-to-multi channel and " ++
      "multi-to-mono channel conversion"
  | .arithmetic fault => fault.message
  | .negativeLength => "__len__() should return >= 0"
  | .countTooLarge => "cannot fit 'int' into an index-sized integer"
  | .silenceTooLong => "repeated bytes are too long"
  | .outOfMemory => ""

/-- Samples as audio, if they fill their frames. -/
def checked (a : Audio) : Except Fault Audio :=
  if a.channels = 0 then .error .noChannels
  else if a.samples.length % a.channels = 0 then .ok a
  else .error .brokenFrame

/-- The number of frames. -/
def frames (a : Audio) : Nat := a.samples.length / a.channels

/-- A thousand times the quotient of frames and frame rate, both operations rounded,
and then the nearest whole number. -/
def roundedLength (a : Audio) : Except Binary64.Fault Int := do
  let frames ← Binary64.ofInt a.frames
  let rate ← Binary64.ofInt a.frameRate
  let seconds ← frames.div rate
  let thousand ← Binary64.ofInt 1000
  (thousand.mul seconds).round

/-- The length in milliseconds. -/
def milliseconds (a : Audio) : Except Fault Int := do
  let ms ← a.roundedLength.mapError .arithmetic
  if ms < 0 then .error .negativeLength else .ok ms

/-- The whole part of the frame rate times the rounded number of seconds. -/
def roundedFrames (frameRate ms : Int) : Except Binary64.Fault Int := do
  let length ← Binary64.ofInt ms
  let thousand ← Binary64.ofInt 1000
  let seconds ← length.div thousand
  let rate ← Binary64.ofInt frameRate
  (rate.mul seconds).truncate

/-- The bound of the numbers that a count is kept in. -/
def countBound : Int := powerOfTwo 63

/-- The most frames of a silence that memory is given to.  It stands for the memory that
there is: nothing in the program sets such a bound. -/
def frameLimit : Int := powerOfTwo 32

/-- The number of frames of a silence, none for a length below zero.  The bytes of
the silence, two for a frame, have to be counted too. -/
def silentFrames (frameRate ms : Int) : Except Fault Nat := do
  let frames ← (roundedFrames frameRate ms).mapError .arithmetic
  if frames < -countBound ∨ countBound ≤ frames then .error .countTooLarge
  else if countBound ≤ 2 * frames then .error .silenceTooLong
  else if frameLimit < frames then .error .outOfMemory
  else .ok frames.toNat

/-- A silence in mono with samples of two bytes. -/
def silence (frameRate ms : Int) : Except Fault Audio := do
  let count ← silentFrames frameRate ms
  return { frameRate := frameRate, samples := List.replicate count 0 }

/-- No audio. -/
def empty : Audio := { samples := [] }

/-- The channels of two parts together.  Only mono audio can be given more channels. -/
def jointChannels (m n : Nat) : Except Fault Nat :=
  if m = n ∨ m = 1 ∨ n = 1 then .ok (max m n) else .error .channelMismatch

/-- The samples of `a` with so many channels and bytes, neither of them below its own: what
is not in so many channels yet is mono. -/
def converted (a : Audio) (channels sampleWidth : Nat) : List Int :=
  let weight : Int := powerOfTwo (8 * (sampleWidth - a.sampleWidth))
  let widened := if sampleWidth ≤ a.sampleWidth then a.samples else a.samples.map (· * weight)
  if channels = a.channels then widened
  else widened.flatMap fun s => List.replicate channels s

/-- An audio with others after it, all at the greatest frame rate without being sampled anew
for it. -/
def followedBy (first : Audio) (rest : List Audio) : Except Fault Audio := do
  let channels ← (rest.map Audio.channels).foldlM jointChannels first.channels
  let sampleWidth := (rest.map Audio.sampleWidth).foldl max first.sampleWidth
  return { frameRate := (rest.map Audio.frameRate).foldl max first.frameRate
           channels := channels
           sampleWidth := sampleWidth
           samples := (first :: rest).flatMap fun a => a.converted channels sampleWidth }

end Audio
end Recital
