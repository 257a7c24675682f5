/-
# Exporting a recording

A recording is exported as an MP3 file and a manifest beside it: a JSON document of
the same name with the extension `.json`, which lists the segments, the settings of
the export and the length of the recording.  The folders of the path are made first,
then the recording is encoded, and the manifest is written last.  What the encoder puts
into the MP3 file is not known here: it is a function from recordings to bytes.
-/

import Recital.Audio.Basic
import Recital.Disk.Basic
import Recital.Json.Written
import Recital.Segment.Ssml

namespace Recital

/-- The version of the program. -/
def version : String := "0.1.0"

/-- An audio file that was written. -/
structure Mp3 where
  path : String
  bitrate : String := "192k"
  title : String
  audio : Audio
  deriving DecidableEq

namespace Export

/-- Why an export fails. -/
inductive Fault where
  | disk (fault : Disk.Fault)
  | audio (fault : Audio.Fault)
  | rendering (error : Error)

/-- The wording of a fault. -/
def Fault.message : Fault → Words
  | .disk fault => fault.message
  | .audio fault => fault.message
  | .rendering error => error.message

/-- The path of the manifest beside an audio file. -/
def manifestPath (path : String) : String := Path.withoutExtension path ++ ".json"

/-- What a manifest says of a segment. -/
def describe (s : Segment) : Except Error Value :=
  match s.interactive with
  | some context =>
    let voice := match context.voice with
      | some voice => Value.text voice.id
      | none => .null
    .ok (.object
      [("volume", .integer s.volume), ("interactive", .boolean true), ("voice", voice)])
  | none => do
    let document ← s.ssml Segment.language
    return .object
      [("volume", .integer s.volume), ("interactive", .boolean false), ("ssml", .text document)]

/-- A number of milliseconds in seconds, to a tenth. -/
def seconds (ms : Int) : Value :=
  match Binary64.ofRatio ms 1000 with
  | .ok s => .real s.toTenths
  | .error _ => .null

/-- The manifest of a recording of `ms` milliseconds. -/
def manifest (clock : String) (ms : Int) (path : String) (segments : List Segment)
    (settings : Value) : Except Error Value := do
  let described ← segments.mapM describe
  return .object
    [("output", .text (Path.baseName path)),
      ("generated_at", .text clock),
      ("promptspeak_version", .text version),
      ("segments", .list described),
      ("settings", settings),
      ("stats", .object
        [("segments", .integer segments.length), ("duration_seconds", seconds ms)])]

/-- What an export does: the audio files it writes, and the disk with the manifest or
the reason why there is none. -/
structure Outcome where
  written : List Mp3
  result : Except Fault Disk

/-- The disk after a recording is encoded, with its file if `encode` gives the bytes of one. -/
def record (encode : Mp3 → Option (List UInt8)) (disk : Disk) (mp3 : Mp3) :
    Except Disk.Fault Disk :=
  match encode mp3 with
  | some bytes => disk.write mp3.path bytes
  | none => .ok disk

/-- Exports a recording at the time `clock`, with an encoder.  One without a length is not
written. -/
def runWith (encode : Mp3 → Option (List UInt8)) (disk : Disk) (clock : String) (a : Audio)
    (path : String) (segments : List Segment) (settings : Value) (title : String) : Outcome :=
  let folder := Path.directory path
  let (disk, refused) := if folder.isEmpty then (disk, none) else disk.makeFolders folder
  match refused with
  | some fault => ⟨[], .error (.disk fault)⟩
  | none =>
    match a.milliseconds with
    | .error fault => ⟨[], .error (.audio fault)⟩
    | .ok ms =>
      let mp3 : Mp3 := { path := path, title := title, audio := a }
      match record encode disk mp3 with
      | .error fault => ⟨[], .error (.disk fault)⟩
      | .ok disk =>
        match manifest clock ms path segments settings with
        | .error error => ⟨[mp3], .error (.rendering error)⟩
        | .ok document =>
          let bytes := (Json.written document).toUTF8.toList
          match disk.write (manifestPath path) bytes with
          | .error fault => ⟨[mp3], .error (.disk fault)⟩
          | .ok disk => ⟨[mp3], .ok disk⟩

/-- Exports a recording with an encoder that leaves no file on the disk. -/
def run (disk : Disk) (clock : String) (a : Audio) (path : String) (segments : List Segment)
    (settings : Value) (title : String) : Outcome :=
  runWith (fun _ => none) disk clock a path segments settings title

end Export
end Recital
