/-
# Instructions

What a command line asks for, in order: text to read, settings for what follows,
the ends of sentences and paragraphs, loops over everything before them, and live
input.  Four of the settings are dials with levels from 0 up to a top:

| dial | top | level 0 | |
| --- | ---: | --- | --- |
| `rate` | 5 | not set | 1 is the fastest |
| `emphasis` | 4 | not set | 1 is the strongest |
| `voiceVolume` | 7 | not set | 7 is what the engine does by itself |
| `outputVolume` | 100 | silence | per cent of the output device |

A level within its range and a loop count from 1 up are part of the types, so an
instruction that exists is a valid one; the functions that build instructions from
arbitrary values say what is wrong with the others.
-/

import Recital.Value
import Recital.Voice

namespace Recital

/-- How the volume changes over the rounds of a loop. -/
inductive Fade where
  | level
  | fadeIn
  | fadeOut
  deriving DecidableEq

/-- The name of a fade. -/
def Fade.name : Fade → String
  | .level => "level"
  | .fadeIn => "fade-in"
  | .fadeOut => "fade-out"

/-- How often a loop goes round, and how it fades. -/
structure Repeat where
  count : Nat
  fade : Fade
  positive : 0 < count

/-- The settings that have levels. -/
inductive Dial where
  | rate
  | emphasis
  | voiceVolume
  | outputVolume
  deriving DecidableEq

/-- The greatest level of a dial. -/
def Dial.top : Dial → Nat
  | .rate => 5
  | .emphasis => 4
  | .voiceVolume => 7
  | .outputVolume => 100

/-- What messages call a dial. -/
def Dial.name : Dial → String
  | .rate => "rate"
  | .emphasis => "emphasis"
  | .voiceVolume => "volume"
  | .outputVolume => "output volume"

/-- A level of a dial. -/
abbrev Dial.Level (d : Dial) : Type := Fin (d.top + 1)

/-- An instruction.  `foreign` is an entry of a list of instructions that is none;
it is kept as it came until something has to be done with it. -/
inductive Instruction where
  | text (words : Words)
  | template (document : String)
  | voice (voice : Option Voice)
  | turn (dial : Dial) (level : dial.Level)
  | reset
  | beginSentence
  | endSentence
  | beginParagraph
  | endParagraph
  | interactive
  | loop (rounds : Repeat)
  | foreign (what : Value)

namespace Instruction

/-- What is wrong with the parts of an instruction. -/
inductive Defect where
  | outOfRange (dial : Dial) (got : Value)
  | count (got : Value)
  | fade (got : Value)

/-- The wording of a defect. -/
def Defect.message : Defect → String
  | .outOfRange dial got => s!"{dial.name} must be a number from 0 to {dial.top}, got {got.shown}"
  | .count got => s!"loop count must be at least 1, got {got.shown}"
  | .fade got => s!"unknown fade mode: {got.shown}"

/-- The instruction that turns a dial, if the value is one of its levels. -/
def ofLevel (dial : Dial) (level : Value) : Except Defect Instruction :=
  match level with
  | .integer (.ofNat n) =>
    if h : n < dial.top + 1 then .ok (.turn dial ⟨n, h⟩)
    else .error (.outOfRange dial level)
  | _ => .error (.outOfRange dial level)

/-- The loop with a count and a fade, where something other than a fade may stand
in its place.  The count is looked at first. -/
def ofCount (count : Value) (fade : Except Value Fade) : Except Defect Instruction :=
  match count with
  | .integer (.ofNat n) =>
    if h : 0 < n then
      match fade with
      | .ok fade => .ok (.loop ⟨n, fade, h⟩)
      | .error got => .error (.fade got)
    else .error (.count count)
  | _ => .error (.count count)

/-- Whether an instruction only configures what follows it. -/
def isControl : Instruction → Bool
  | .voice _ | .turn .. | .reset => true
  | _ => false

/-- Whether an instruction is a loop. -/
def isLoop : Instruction → Bool
  | .loop _ => true
  | _ => false

/-- The instruction that sets the output volume. -/
def outputVolume (level : Dial.Level .outputVolume) : Instruction := .turn .outputVolume level

end Instruction
end Recital
