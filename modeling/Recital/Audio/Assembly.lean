/-
# Joining audio

The runs of a segment are joined with the pauses that their breaks ask for, and the
segments of a recording with a fixed pause.  A pause is silence at the frame rate of
the first part; a single part stays as it is.
-/

import Recital.Audio.Basic
import Recital.Error
import Recital.Run

namespace Recital
namespace Audio

/-- The audio of the runs behind the first of `runs`, each after its pause.  What stands
before them has so many `channels`, and a part that does not go with it is refused before
the run of the next part is looked for. -/
def pausedRuns (frameRate : Int) (channels : Nat) :
    List Run → List Audio → Except Error (List Audio)
  | _, [] => .ok []
  | before :: after :: runs, a :: rest => do
    let gap ← (silence frameRate (before.pause after)).mapError .audio
    let channels ← (jointChannels channels a.channels).mapError .audio
    let more ← pausedRuns frameRate channels (after :: runs) rest
    return gap :: a :: more
  | _, _ :: _ => .error .missingRun

/-- The audio of all runs with their pauses. -/
def concatenate (runs : List Run) : List Audio → Except Error Audio
  | [] => .ok empty
  | first :: rest => do
    let paused ← pausedRuns first.frameRate first.channels runs rest
    (first.followedBy paused).mapError .audio

/-- The pause between two segments, in milliseconds. -/
def segmentPause : Int := 525

/-- Parts of a recording with a fixed pause between them. -/
def join (parts : List Audio) (pause : Int) : Except Fault Audio :=
  match parts with
  | [] => .ok empty
  | [whole] => .ok whole
  | first :: rest => do
    let gap ← silence first.frameRate pause
    first.followedBy (rest.flatMap fun part => [gap, part])

end Audio
end Recital
