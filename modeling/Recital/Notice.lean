/-
# Notices

What the program reports about its work besides its results, in three degrees of
importance.
-/

import Recital.Words

namespace Recital

/-- How important a notice is. -/
inductive Notice.Level where
  | debug
  | info
  | warning
  deriving DecidableEq

/-- The name of a degree of importance. -/
def Notice.Level.name : Notice.Level → String
  | .debug => "DEBUG"
  | .info => "INFO"
  | .warning => "WARNING"

/-- A notice.  Segments are counted from 1. -/
inductive Notice where
  | nothingToRead
  | settingsMoved (count : Nat)
  | expanded (given result : Nat)
  | compiled (segments : Nat)
  | noSuchVoice (name : String)
  | voicesLoaded (count : Nat)
  | attemptFailed (attempt limit : Nat) (reason : Words)
  | noInput (segment total : Nat)
  | interactiveSegment (segment total : Nat) (volume : Int)
  | spokenSegment (segment total : Nat) (volume : Int)
  | inputEnded (lines : Nat)
  deriving DecidableEq

namespace Notice

/-- How important a notice is. -/
def level : Notice → Level
  | .expanded .. => .debug
  | .compiled _ | .voicesLoaded _ | .interactiveSegment .. | .spokenSegment ..
  | .inputEnded _ => .info
  | .nothingToRead | .settingsMoved _ | .noSuchVoice _ | .attemptFailed .. | .noInput .. => .warning

/-- The wording of a notice. -/
def message : Notice → Words
  | .nothingToRead => "None of the given instructions do anything without something to read."
  | .settingsMoved count =>
    "Instructions that configure the voice only affect the instructions after them. " ++
      s!"Moving {count} trailing instruction(s) to the beginning."
  | .expanded given result => s!"Expanded {given} instruction(s) into {result}"
  | .compiled segments => s!"Compiled {segments} prompt segment(s)"
  | .noSuchVoice name => s!"No voice with the name '{name}' was found."
  | .voicesLoaded count => s!"Loaded {count} voices from edge-tts"
  | .attemptFailed attempt limit reason => s!"TTS attempt {attempt}/{limit} failed: " ++ reason
  | .noInput segment total => s!"Segment {segment}/{total} reads live input but none is available"
  | .interactiveSegment segment total volume =>
    s!"Segment {segment}/{total}: interactive at volume {volume}"
  | .spokenSegment segment total volume => s!"Segment {segment}/{total}: volume {volume}"
  | .inputEnded lines => s!"Interactive input ended after {lines} line(s)"

/-- The line that a log has for a notice. -/
def line (n : Notice) : Words := n.level.name ++ ": " ++ n.message

end Notice
end Recital
