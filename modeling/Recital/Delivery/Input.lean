/-
# Live input

Live input is a sequence of lines.  Bytes are read in blocks, and a character that a
block breaks off waits for the next one; so do two bytes at its end that would begin a
surrogate.  Bytes that are no text spoil all of their block, and what waits at the end
of the bytes is a fault of its own.
Behind a fault there are no lines, and of the text before it only the lines that are
ended count: a carriage return right before the fault could still be half an ending.
-/

import Recital.Text.Lines
import Recital.Text.Utf8

namespace Recital

/-- Lines of live input, and the fault of the bytes behind them, if there is one. -/
structure Input where
  lines : List String := []
  fault : Option Text.Utf8.Fault := none

namespace Input

/-- The input whose text is `cs`. -/
def ofText (cs : List Char) : Input :=
  { lines := Text.lines (String.ofList (Text.unifyNewlines cs)) }

/-- The lines of a text that are ended, whatever follows it. -/
def endedLines (cs : List Char) : List String :=
  let sure := if cs.getLast? = some '\r' then cs.dropLast else cs
  (Text.splitLines (Text.unifyNewlines sure)).filterMap fun line =>
    if line.getLast? = some '\n' then some (String.ofList (Text.trimLineEnd line)) else none

/-- How many bytes are read at a time. -/
def blockSize : Nat := 8192

/-- The blocks of a byte string. -/
def blocks : List UInt8 → List (List UInt8)
  | [] => []
  | b :: bytes =>
    (b :: bytes.take (blockSize - 1)) :: blocks (bytes.drop (blockSize - 1))
termination_by bytes => bytes.length
decreasing_by simp only [List.length_drop, List.length_cons]; omega

/-- Whether the bytes from a fault to the end of their block may wait for more. -/
def mayWait (fault : Text.Utf8.Fault) : List UInt8 → Bool
  | [lead, second] => fault.reason = .truncated ∨ (lead = 0xED ∧ 0xA0 ≤ second ∧ second ≤ 0xBF)
  | _ => fault.reason = .truncated

/-- The text of blocks, and its fault, if there is one.  The bytes that wait come before
the first block, and a fault is placed from where they start. -/
def textOf (waiting : List UInt8) : List (List UInt8) → List Char × Option Text.Utf8.Fault
  | [] => Text.Utf8.readUpTo waiting
  | block :: more =>
    match Text.Utf8.readUpTo (waiting ++ block) with
    | (cs, none) =>
      let (text, fault) := textOf [] more
      (cs ++ text, fault)
    | (cs, some fault) =>
      let rest := (waiting ++ block).drop fault.position
      if mayWait fault rest then
        let (text, fault) := textOf rest more
        (cs ++ text, fault)
      else ([], some fault)

/-- The input that bytes hold. -/
def ofBytes (bytes : List UInt8) : Input :=
  match textOf [] (blocks bytes) with
  | (cs, none) => ofText cs
  | (cs, some fault) => { lines := endedLines cs, fault := some fault }

end Input
end Recital
