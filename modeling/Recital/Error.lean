/-
# What can go wrong with a prompt

All causes for which compiling, rendering or speaking a prompt fails, and their
wording.
-/

import Recital.Audio.Basic
import Recital.Instruction
import Recital.Segment
import Recital.Template
import Recital.Text.Utf8

namespace Recital

/-- What keeps the scopes of a segment from being balanced. -/
inductive Imbalance where
  | openedTwice (kind : Kind)
  | closedOutOfOrder (kind : Kind)
  | leftOpen (count : Nat)
  deriving DecidableEq

/-- The wording of an imbalance. -/
def Imbalance.message : Imbalance → String
  | .openedTwice kind => s!"{kind.name} scope opened twice"
  | .closedOutOfOrder kind => s!"{kind.name} scope closed out of order"
  | .leftOpen count => s!"{count} scope(s) left open"

/-- Why an attempt to speak a text failed. -/
inductive SpeechFault where
  | silent (text : Words)
  | engine (reason : String)
  deriving DecidableEq

/-- What a log says of a failed attempt. -/
def SpeechFault.reason : SpeechFault → Words
  | .silent text => "TTS produced 0-byte file for: " ++ text.take 50 ++ "..."
  | .engine reason => reason

/-- A cause of failure. -/
inductive Error where
  | defect (defect : Instruction.Defect)
  | arithmetic (fault : Binary64.Fault)
  | template (fault : Template.Fault)
  | unmatchedEnd (kind : Kind)
  | imbalance (imbalance : Imbalance)
  | unexpandedLoop
  | notAnInstruction (what : Value)
  | noSuchLevel (level : Int)
  | interactiveMarkup
  | missingVoice
  | missingRun
  | audio (fault : Audio.Fault)
  | speech (fault : SpeechFault)
  | decoding (reason : String)
  | input (fault : Text.Utf8.Fault)

/-- The wording of a cause. -/
def Error.message : Error → Words
  | .defect d => d.message
  | .arithmetic fault => fault.message
  | .template fault => fault.message
  | .unmatchedEnd kind => s!"end of {kind.name} without a matching begin in the current segment"
  | .imbalance i => i.message
  | .unexpandedLoop => "Loop instructions must be expanded before building segments"
  | .notAnInstruction what => s!"Don't know what to do with {what.shown}"
  | .noSuchLevel level => s!"{level}"
  | .interactiveMarkup => "Interactive segments are rendered one input line at a time"
  | .missingVoice => "'NoneType' object has no attribute 'id'"
  | .missingRun => "list index out of range"
  | .audio fault => fault.message
  | .speech (.silent text) => (SpeechFault.silent text).reason
  | .speech (.engine reason) => s!"Speech synthesis failed: {reason}"
  | .decoding reason => reason
  | .input fault => fault.message

end Recital
