/-
# The speech engine

The engine is asked to say a text with a voice and a prosody.  An attempt ends well
when it raises no fault and leaves a recording that is not empty; otherwise it is
repeated, three times in all, after one second and then after two.  The recording of
a failed attempt stays for the next one, which may end well without writing
anything; so does what was there before the first.  A recording is decoded once it is
made, and that may fail as well.

What the engine does is not known here: it may depend on what it is asked and on how
often it was asked before, and so it is given, together with the decoder.
-/

import Recital.Audio.Basic
import Recital.Disk.Basic
import Recital.Error
import Recital.Notice

namespace Recital

/-- What the engine is told of the rate, the volume and the pitch of speech. -/
structure Prosody where
  rate : String := "+0%"
  volume : String := "+0%"
  pitch : String := "+0Hz"
  deriving DecidableEq

/-- The rate levels from 0 up. -/
def rateShifts : List String := ["+0%", "+50%", "+25%", "+0%", "-25%", "-50%"]

/-- The volume levels from 0 up. -/
def volumeShifts : List String :=
  ["+0%", "-100%", "-75%", "-50%", "-25%", "+25%", "+50%", "+0%"]

/-- The emphasis levels from 0 up, which the engine can only express by pitch. -/
def pitchShifts : List String := ["+0Hz", "+15Hz", "+8Hz", "+0Hz", "-8Hz"]

/-- The entry of a level in a table that starts at level 0. -/
def shiftOf (table : List String) (level : Int) : Except Error String :=
  match if level < 0 then none else table[level.toNat]? with
  | some shift => .ok shift
  | none => .error (.noSuchLevel level)

/-- The prosody of a style. -/
def Style.prosody (s : Style) : Except Error Prosody := do
  let rate ← shiftOf rateShifts s.rate
  let volume ← shiftOf volumeShifts s.volume
  let pitch ← shiftOf pitchShifts s.emphasis
  return ⟨rate, volume, pitch⟩

/-- What the engine is asked to say. -/
structure Call where
  text : Words
  voice : String
  prosody : Prosody
  deriving DecidableEq

/-- What becomes of an attempt: the bytes that it writes, if it writes, and the fault that
it raises, if it does. -/
structure Attempt where
  written : Option (List UInt8) := none
  raised : Option String := none
  deriving DecidableEq

/-- A speech engine with the decoder of its recordings: what becomes of an attempt at a
call, by the number of attempts before it, and the audio of a recording or the reason
why there is none.  The one that is there by default writes nothing. -/
structure Engine where
  attempt : Nat → Call → Attempt := fun _ _ => {}
  decode : List UInt8 → Except String Audio := fun _ => .error ""

/-- What there is of a recording.  A folder in its place cannot be written, and is not
empty either. -/
inductive Recording where
  | missing
  | file (bytes : List UInt8)
  | folder (path : String)
  deriving DecidableEq

/-- What there is of the recording at a path. -/
def Recording.onDisk (d : Disk) (path : String) : Recording :=
  match d.lookUp path with
  | .ok (_, .file bytes) => .file bytes
  | .ok (_, .folder) => .folder path
  | .ok (_, .nothing) | .error _ => .missing

/-- The bytes of a recording. -/
def Recording.bytes : Recording → List UInt8
  | .file bytes => bytes
  | .missing | .folder _ => []

/-- The recording after an attempt. -/
def Attempt.record (a : Attempt) (before : Recording) : Recording :=
  match before, a.written with
  | .folder path, _ => .folder path
  | before, none => before
  | _, some bytes => .file bytes

/-- Why an attempt failed, if it did, where `after` is the recording it left. -/
def Attempt.fault? (a : Attempt) (text : Words) (after : Recording) : Option SpeechFault :=
  match after with
  | .folder path =>
    if a.written.isSome then some (.engine (Disk.Fault.refused .isDirectory path).message)
    else a.raised.map .engine
  | after =>
    match a.raised with
    | some reason => some (.engine reason)
    | none => if after.bytes.isEmpty then some (.silent text) else none

/-- Where speech is recorded: the engine, and what was asked, waited for and reported so
far. -/
structure Booth where
  engine : Engine := {}
  calls : List Call := []
  sleeps : List Nat := []
  log : List Notice := []

namespace Booth

/-- How often a text is attempted. -/
def attemptLimit : Nat := 3

/-- The wait after the attempt with a number, in milliseconds. -/
def delay (number : Nat) : Nat := 1000 * powerOfTwo (number - 1)

/-- Reports something. -/
def note (b : Booth) (n : Notice) : Booth := { b with log := b.log ++ [n] }

/-- Makes one attempt. -/
def attempt (b : Booth) (call : Call) : Attempt × Booth :=
  (b.engine.attempt b.calls.length call, { b with calls := b.calls ++ [call] })

/-- Attempts a call until it ends well, with at most `retries` attempts after the
first, and gives the recording.  `number` counts the attempts and `before` is the
recording so far. -/
def speakFrom (call : Call) (number : Nat) (before : Recording) (b : Booth) :
    (retries : Nat) → Except SpeechFault Recording × Booth
  | 0 =>
    let (a, b) := b.attempt call
    match a.fault? call.text (a.record before) with
    | none => (.ok (a.record before), b)
    | some fault => (.error fault, b.note (.attemptFailed number attemptLimit fault.reason))
  | retries + 1 =>
    let (a, b) := b.attempt call
    match a.fault? call.text (a.record before) with
    | none => (.ok (a.record before), b)
    | some fault =>
      let b := b.note (.attemptFailed number attemptLimit fault.reason)
      let b := { b with sleeps := b.sleeps ++ [delay number] }
      speakFrom call (number + 1) (a.record before) b retries

/-- Says a text, where `before` is what there already is of its recording. -/
def speak (b : Booth) (call : Call) (before : Recording) :
    Except SpeechFault Recording × Booth :=
  speakFrom call 1 before b (attemptLimit - 1)

end Booth

end Recital
