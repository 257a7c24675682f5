/-
# Loops

A loop repeats everything before it, the rounds of earlier loops included.  Rounds
after the first start with a reset, so that no round sees the settings of the one
before.  In a fading loop of `n` rounds, round `k` (from 0) is scaled by

| fade | factor |
| --- | --- |
| in | `(k + 1) / n` |
| out | `(n - k) / n` |

which is the binary64 number nearest to the quotient.  Where the factor is not 1 the
round sets the scaled full volume first and again after each reset, and in every
round the volumes that are set explicitly are scaled; scaling rounds a half up.
-/

import Recital.Error

namespace Recital

/-- The factor of round `k` of `count` rounds. -/
def Fade.factor (fade : Fade) (k count : Int) : Except Binary64.Fault Binary64 :=
  match fade with
  | .level => .ok .one
  | .fadeIn => Binary64.ofRatio (k + 1) count
  | .fadeOut => Binary64.ofRatio (count - k) count

/-- The factors of all rounds. -/
def Fade.factors (fade : Fade) (count : Int) : Except Binary64.Fault (List Binary64) :=
  (List.range count.toNat).mapM fun k : Nat => fade.factor k count

/-- A volume scaled by a factor and rounded, a half going up. -/
def scaleVolume (volume : Int) (factor : Binary64) : Except Binary64.Fault Int := do
  let v ← Binary64.ofInt volume
  ((v.mul factor).add .half).truncate

namespace Instruction

/-- The instruction that sets a volume after scaling. -/
def scaled (volume : Int) (factor : Binary64) : Except Error Instruction := do
  let v ← (scaleVolume volume factor).mapError .arithmetic
  (ofLevel .outputVolume (.integer v)).mapError .defect

/-- The full volume of a scaled round, as the instructions that set it; none where
the round is not scaled. -/
def roundVolume (factor : Binary64) : Except Error (List Instruction) :=
  if factor = .one then .ok []
  else do
    let x ← scaled fullVolume factor
    return [x]

/-- An instruction as a round repeats it. -/
def inRound (factor : Binary64) (x : Instruction) : Except Error (List Instruction) :=
  match x with
  | .turn .outputVolume level => do
    let y ← scaled (level.val : Int) factor
    return [y]
  | .reset => do
    let volume ← roundVolume factor
    return .reset :: volume
  | x => .ok [x]

/-- Round `k` of a loop over `body`. -/
def round (body : List Instruction) (rounds : Repeat) (k : Nat) :
    Except Error (List Instruction) := do
  let factor ← (rounds.fade.factor k rounds.count).mapError .arithmetic
  let volume ← roundVolume factor
  let repeated ← body.mapM (inRound factor)
  return (if k = 0 then [] else [.reset]) ++ volume ++ repeated.flatten

/-- All rounds of a loop over `body`. -/
def unroll (body : List Instruction) (rounds : Repeat) : Except Error (List Instruction) := do
  let all ← (List.range rounds.count).mapM (round body rounds)
  return all.flatten

/-- One more instruction after a list without loops: a loop repeats the list. -/
def follow (done : List Instruction) (x : Instruction) : Except Error (List Instruction) :=
  match x with
  | .loop rounds => unroll done rounds
  | x => .ok (done ++ [x])

/-- A list with every loop replaced by its rounds. -/
def expandLoops (xs : List Instruction) : Except Error (List Instruction) := xs.foldlM follow []

end Instruction
end Recital
