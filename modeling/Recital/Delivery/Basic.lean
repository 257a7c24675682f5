/-
# Delivering segments

Segments are delivered strictly in order.  A regular one is flattened into runs, each
run is said by the engine and its recording decoded before the next one is said, and
the runs are joined and brought to the volume of the segment; a segment without text
gives no audio.  An interactive one takes all lines of input that are left and delivers
the prompt of each line that is not blank.

A performance is the state that delivery changes: the booth, the input that is left,
and the audio delivered so far.  A failure ends the delivery and leaves the state as
it is then.
-/

import Recital.Audio.Assembly
import Recital.Audio.Attenuation
import Recital.Delivery.Input
import Recital.Draft
import Recital.Run
import Recital.Speech

namespace Recital

/-- The state of a delivery.  Where there is no input, interactive segments are
passed over. -/
structure Performance where
  booth : Booth := {}
  input : Option Input := none
  parts : List Audio := []

/-- The audio of a segment whose runs sound like `parts`: these are joined and brought to its
volume. -/
def Segment.mix (s : Segment) (parts : List Audio) : Except Error Audio := do
  let whole ← Audio.concatenate s.runs parts
  (whole.attenuate s.volume).mapError Error.arithmetic

/-- The voice of text that asks for none. -/
def defaultVoice : String := "en-US-AriaNeural"

namespace Performance

/-- A step of a delivery, which may fail. -/
abbrev Step := ExceptT Error (StateM Performance)

/-- Reports something. -/
def note (n : Notice) : Step Unit := modify fun p => { p with booth := p.booth.note n }

/-- Has the engine say a run, with the voice `voice` where the run asks for none, and
decodes what it recorded. -/
def say (voice : String) (run : Run) : Step Audio := do
  let prosody ← run.style.prosody
  let call : Call := ⟨run.text, (run.voice.map Voice.id).getD voice, prosody⟩
  let p ← get
  let (result, booth) := p.booth.speak call .missing
  set { p with booth := booth }
  match result with
  | .error fault => throw (.speech fault)
  | .ok recording => (p.booth.engine.decode recording.bytes).mapError Error.decoding

/-- The audio of a segment. -/
def render (voice : String) (s : Segment) : Step Audio := do
  let parts ← s.runs.mapM (say voice)
  s.mix parts

/-- Delivers a regular segment. -/
def deliver (voice : String) (s : Segment) : Step Unit := do
  if s.hasText then
    let audio ← render voice s
    modify fun p => { p with parts := p.parts ++ [audio] }

/-- Delivers lines of input, and counts those that are not blank. -/
def deliverLines (voice : String) (context : Context) (volume : Int) :
    List String → Step Nat
  | [] => return 0
  | line :: lines => do
    if Text.isBlankText line then deliverLines voice context volume lines
    else do
      deliver voice (context.prompt line volume)
      let spoken ← deliverLines voice context volume lines
      return spoken + 1

/-- Delivers an interactive segment from the input that is left, which it uses
up. -/
def deliverInput (voice : String) (context : Context) (volume : Int) (input : Input) :
    Step Unit := do
  modify fun p => { p with input := some {} }
  let spoken ← deliverLines voice context volume input.lines
  match input.fault with
  | some fault => throw (.input fault)
  | none => note (.inputEnded spoken)

/-- Delivers segment `number` of `total`. -/
def deliverOne (voice : String) (number total : Nat) (s : Segment) : Step Unit := do
  match s.interactive with
  | none => do
    note (.spokenSegment number total s.volume)
    deliver voice s
  | some context => do
    let p ← get
    match p.input with
    | none => note (.noInput number total)
    | some input => do
      note (.interactiveSegment number total s.volume)
      deliverInput voice context s.volume input

/-- Delivers segments that are numbered from `number` on. -/
def deliverFrom (voice : String) (total : Nat) : (number : Nat) → List Segment → Step Unit
  | _, [] => return ()
  | number, s :: segments => do
    deliverOne voice number total s
    deliverFrom voice total (number + 1) segments

/-- Delivers all segments. -/
def deliverAll (voice : String) (segments : List Segment) : Step Unit :=
  deliverFrom voice segments.length 1 segments

/-- All audio delivered, joined. -/
def combined (p : Performance) : Except Audio.Fault Audio :=
  Audio.join p.parts Audio.segmentPause

end Performance
end Recital
