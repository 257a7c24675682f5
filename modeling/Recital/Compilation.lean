/-
# From instructions to segments

Trailing settings are moved to the front, loops are unrolled, the instructions are
followed one by one, and the segments are checked before anything is delivered.
-/

import Recital.Draft
import Recital.Instruction.Loop
import Recital.Instruction.Trailing
import Recital.Segment.Balance

namespace Recital

/-- What compiling a list of instructions gives: what was reported up to the end or
to the failure, and the segments. -/
structure Compilation where
  notices : List Notice
  result : Except Error (List Segment)

/-- The first imbalance among segments, if there is one. -/
def checkAll (segments : List Segment) : Except Error Unit :=
  segments.forM fun s => s.checkBalanced.mapError .imbalance

/-- The segments of a list without loops, checked. -/
def buildChecked (chooser : Chooser) (xs : List Instruction) : Except Error (List Segment) := do
  let segments ← buildSegments chooser xs
  checkAll segments
  return segments

/-- Compiles a list of instructions. -/
def compile (chooser : Chooser) (xs : List Instruction) : Compilation :=
  let (arranged, moved) := Instruction.leadSettings xs
  match Instruction.expandLoops arranged with
  | .error error => ⟨moved, .error error⟩
  | .ok expanded =>
    let notices := moved ++ [.expanded xs.length expanded.length]
    match buildChecked chooser expanded with
    | .error error => ⟨notices, .error error⟩
    | .ok segments => ⟨notices ++ [.compiled segments.length], .ok segments⟩

end Recital
