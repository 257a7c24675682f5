/-
# The program

The outer layer of a session: it hands the words of the command line, the files that
they may name and standard input to `Session.run`, and prints what comes back.  It
reaches neither the web nor a speech engine and encodes no audio, so that of its own
accord it can list voices and print prompts, while speaking ends with the request for
an encoder.
-/

import Recital.Session

namespace Recital
namespace Program

/-- The texts in a word of the command line that may name a file: the word, and what
follows a short option or an equals sign in it. -/
def fileNames (word : String) : List String :=
  let cs := word.toList
  [word, String.ofList (cs.drop 2), String.ofList ((cs.dropWhile (· != '=')).drop 1)]

/-- The file with a name, where there is one that can be read. -/
def readFile? (name : String) : IO (Option (List String × List UInt8)) := do
  try
    let bytes ← IO.FS.readBinFile name
    return some ((Path.components name).filter fun c => c != "" && c != ".", bytes.toList)
  catch _ => return none

/-- The files that the words of a command line may name. -/
def readFiles (words : List String) : IO Disk := do
  let names := (words.flatMap fileNames).filter fun name => !name.isEmpty && !name.startsWith "/"
  return { files := (← names.mapM readFile?).filterMap id }

/-- The bytes that are left of a stream. -/
partial def readRest (stream : IO.FS.Stream) (before : ByteArray) : IO ByteArray := do
  let block ← stream.read 65536
  if block.isEmpty then return before else readRest stream (before ++ block)

/-- Standard input, where the words ask for it. -/
def readInput (words : List String) : IO Input := do
  if words.contains "--interactive" then
    return Input.ofBytes (← readRest (← IO.getStdin) ByteArray.empty).toList
  else return {}

/-- A seed that nobody has chosen. -/
def freshSeed : IO Int := do
  let bytes ← IO.getRandomBytes 16
  return bytes.toList.foldl (fun n b => n * 256 + (b.toNat : Int)) 0

/-- The room for templates. -/
def room : Room := { containers := 900, arrays := 450 }

/-- Prints a report, and gives its exit code. -/
def present (report : Report) : IO UInt32 := do
  IO.print (Words.readable report.output)
  IO.eprint (Words.readable report.errors)
  match report.ending with
  | .ok code => return UInt32.ofNat code
  | .error failure => do
    IO.eprintln (Words.readable failure.message)
    return 1

end Program
end Recital

/-- Runs a session over the words of the command line. -/
def main (words : List String) : IO UInt32 := do
  let world : Recital.World :=
    { disk := ← Recital.Program.readFiles words
      depth := Recital.Program.room.containers
      room := Recital.Program.room
      input := ← Recital.Program.readInput words
      canEncode := false
      entropy := ← Recital.Program.freshSeed
      clock := "" }
  Recital.Program.present (Recital.Session.run world words)
