/-
# Runs of speech

A run is text that one call of the speech engine says: it has one voice and one
style.  A segment is flattened into runs by joining consecutive texts with a space as
long as voice and style stay the same and no sentence or paragraph opens or closes
between them.  Blank texts do not count, and what stands before the first run makes
no break.

Between two runs there is a pause, the longest of those that apply:

| reason | milliseconds |
| --- | ---: |
| always | 150 |
| another voice | 375 |
| a sentence break | 375 |
| a paragraph break | 700 |
-/

import Recital.Segment
import Recital.Text.Blank

namespace Recital

/-- A break in the structure of the text. -/
inductive Break where
  | sentence
  | paragraph
  deriving DecidableEq

/-- The name of a break. -/
def Break.name : Break → String
  | .sentence => "sentence"
  | .paragraph => "paragraph"

/-- Text that is said in one go, with the break before it. -/
structure Run where
  text : Words
  voice : Option Voice := none
  style : Style := {}
  boundary : Option Break := none
  deriving DecidableEq

/-- The flattening of a segment up to some event: the texts so far as runs of their own,
last one first, the voice and style in force, and the break since the last text. -/
structure Flattening where
  runs : List Run := []
  voice : Option Voice := none
  style : Style := {}
  boundary : Option Break := none

namespace Flattening

/-- Adds a text. -/
def say (f : Flattening) (words : Words) : Flattening :=
  if Text.isBlankText words then f
  else { f with runs := ⟨words, f.voice, f.style, f.boundary⟩ :: f.runs, boundary := none }

/-- Notes a break.  A sentence break does not weaken a paragraph break. -/
def note (f : Flattening) (b : Break) : Flattening :=
  if f.runs.isEmpty || f.boundary == some .paragraph then f else { f with boundary := some b }

/-- Follows one event. -/
def step (f : Flattening) : Event → Flattening
  | .text words => f.say words
  | .opening (.voice v) => { f with voice := v }
  | .closing (.voice _) => { f with voice := none }
  | .opening (.style s) => { f with style := s }
  | .closing (.style _) => { f with style := {} }
  | .opening .sentence | .closing .sentence => f.note .sentence
  | .opening .paragraph | .closing .paragraph => f.note .paragraph

end Flattening

/-- Whether nothing separates two neighbouring runs. -/
def Run.joins (before after : Run) : Bool :=
  after.boundary = none ∧ before.voice = after.voice ∧ before.style = after.style

/-- Runs with those joined that nothing separates. -/
def Run.joined : List Run → List Run
  | [] => []
  | r :: runs =>
    match Run.joined runs with
    | [] => [r]
    | next :: more =>
      if r.joins next then { r with text := r.text ++ " " ++ next.text } :: more
      else r :: next :: more

/-- The runs of a segment. -/
def Segment.runs (s : Segment) : List Run :=
  Run.joined (s.events.foldl Flattening.step {}).runs.reverse

/-- The pause between two neighbouring runs, in milliseconds. -/
def Run.pause (before after : Run) : Int :=
  let voice : Int := if before.voice = after.voice then 0 else 375
  let boundary : Int := match after.boundary with
    | none => 0
    | some .sentence => 375
    | some .paragraph => 700
  max 150 (max voice boundary)

/-- The pauses between neighbouring runs. -/
def Run.pauses : List Run → List Int
  | before :: after :: runs => before.pause after :: Run.pauses (after :: runs)
  | _ => []

end Recital
