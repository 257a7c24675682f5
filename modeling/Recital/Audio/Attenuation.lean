/-
# Output volume

The output volume scales samples by a percentage of full scale.  From 100 on nothing
changes; below that each sample is multiplied by the binary64 number nearest the
fraction, and the rounded product is rounded to the nearest whole number, a half
going to the even neighbour, and kept within the range of its width.
-/

import Recital.Audio.Basic

namespace Recital
namespace Audio

/-- The greatest sample of `width` bytes. -/
def greatestSample (width : Nat) : Int := powerOfTwo (8 * width - 1) - 1

/-- The least sample of `width` bytes. -/
def leastSample (width : Nat) : Int := -powerOfTwo (8 * width - 1)

/-- A sample times a factor. -/
def attenuateSample (width : Nat) (factor : Binary64) (sample : Int) :
    Except Binary64.Fault Int := do
  let x ← Binary64.ofInt sample
  let scaled ← (x.mul factor).round
  return max (leastSample width) (min (greatestSample width) scaled)

/-- Audio at a volume in per cent of full scale. -/
def attenuate (a : Audio) (volume : Int) : Except Binary64.Fault Audio :=
  if 100 ≤ volume then .ok a
  else do
    let factor ← Binary64.ofRatio (max volume 0) 100
    let samples ← a.samples.mapM (attenuateSample a.sampleWidth factor)
    return { a with samples := samples }

end Audio
end Recital
