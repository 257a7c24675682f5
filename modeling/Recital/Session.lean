/-
# A call of the program

A session goes from the words of the command line to what is printed, played or
exported.  Its stages, each of which may end it:

1. the early options decide what is reported and which catalog is used;
2. the command line is read;
3. the catalog is listed, if that is asked for;
4. the instructions are compiled;
5. the prompts are printed, or spoken and played, or spoken and exported.

What a session sees of the world is given to it, and what it does to the world is in
its report.
-/

import Recital.CommandLine.Help
import Recital.Compilation
import Recital.Delivery.Printing

namespace Recital

/-- What a session sees: files, the web, the speech engine, the online list of voices,
whether audio can be encoded and what is left on the disk of it then, standard input, the
seed of a session that asks for none, and the time.  `depth` is the room for containers
while the command line is read, and `room` that for templates when prompts are compiled. -/
structure World where
  disk : Disk := {}
  web : Source.Web := {}
  engine : Engine := {}
  listing : Option (List Value) := none
  canEncode : Bool := true
  encode : Mp3 → Option (List UInt8) := fun _ => none
  input : Input := {}
  entropy : Int := 0
  depth : Nat := 0
  room : Room := {}
  clock : String

/-- A failure that a session does not handle. -/
inductive Session.Failure where
  | reading (failure : CommandLine.Failure)
  | prompt (error : Error)
  | exporting (fault : Export.Fault)

/-- The wording of a failure. -/
def Session.Failure.message : Session.Failure → Words
  | .reading failure => failure.message
  | .prompt error => error.message
  | .exporting fault => fault.message

/-- What a session has done: its exit code or the failure that ended it, what it
printed, what it reported, what it asked the speech engine, and what it played,
exported and fetched. -/
structure Report where
  ending : Except Session.Failure Nat
  output : Words := ""
  errors : Words := ""
  booth : Booth := {}
  played : List Audio := []
  exported : List Mp3 := []
  addresses : List String := []
  disk : Disk

namespace Session

/-- The part of a report about the reading of the command line. -/
structure Preamble where
  verbose : Bool
  notices : List Notice
  addresses : List String

/-- Whether a session shows a notice. -/
def shows (verbose : Bool) (n : Notice) : Bool :=
  match n.level with
  | .debug => false
  | .info => verbose
  | .warning => true

/-- Notices as they are printed. -/
def noticeText (verbose : Bool) (notices : List Notice) : Words :=
  CommandLine.printed ((notices.filter (shows verbose)).map Notice.line)

/-- The line for an error that ends a session. -/
def errorText (message : Words) : Words := CommandLine.printed ["Error: " ++ message]

/-- A report that ends with an exit code. -/
def leave (w : World) (p : Preamble) (code : Nat) (output errors : Words) : Report :=
  { ending := .ok code, output := output, errors := noticeText p.verbose p.notices ++ errors
    addresses := p.addresses, disk := w.disk }

/-- A report that ends with a failure. -/
def fail (w : World) (p : Preamble) (failure : Failure) (output : Words) : Report :=
  { ending := .error failure, output := output, errors := noticeText p.verbose p.notices
    addresses := p.addresses, disk := w.disk }

/-- The catalog that a session uses, and what there is to report. -/
def loadCatalog (w : World) (online : Bool) : Except Catalog.Fault Catalog × List Notice :=
  if online then
    match w.listing with
    | none => (.error .offline, [])
    | some listings => (Catalog.ofListings listings, [.voicesLoaded listings.length])
  else (.ok Catalog.builtIn, [])

/-- The settings that a manifest shows. -/
def settings (r : CommandLine.Request) : Value :=
  .object
    [("default_voice", .text r.defaultVoice),
      ("seed", match r.seed with
        | some n => .integer n
        | none => .null),
      ("instructions", .integer r.instructions.length)]

/-- Prints the prompts as documents. -/
def print (w : World) (p : Preamble) (segments : List Segment) : Report :=
  let sheet := Printing.sheet segments w.input
  let output := CommandLine.printed sheet.lines
  match sheet.error with
  | none => leave w p 0 output ""
  | some error => fail w p (.prompt error) output

/-- Exports what was delivered, where `base` reports the delivery. -/
def exportParts (w : World) (r : CommandLine.Request) (path : String)
    (segments : List Segment) (done : Performance) (base : Report) : Report :=
  match done.combined with
  | .error fault => { base with ending := .error (.prompt (.audio fault)) }
  | .ok whole =>
    let title := Path.withoutExtension (Path.baseName path)
    let outcome :=
      Export.runWith w.encode w.disk w.clock whole path segments (settings r) title
    let base := { base with exported := outcome.written }
    match outcome.result with
    | .error fault => { base with ending := .error (.exporting fault) }
    | .ok disk =>
      { base with
        disk := disk
        output := CommandLine.printed ["Done: " ++ path, "Manifest: " ++ Export.manifestPath path] }

/-- Speaks the prompts, and plays or exports them. -/
def speak (w : World) (p : Preamble) (r : CommandLine.Request) (segments : List Segment) :
    Report :=
  if !w.canEncode then
    leave w p 1 "" (CommandLine.printed
      ["Error: ffmpeg is required but not found.",
        "Install it, or use --ssml to print prompts without speaking."])
  else
    let start : Performance := { booth := { engine := w.engine }, input := some w.input }
    let (result, done) := (Performance.deliverAll r.defaultVoice segments).run start
    let path? := r.output.filter fun path => !path.isEmpty
    let base : Report :=
      { ending := .ok 0, errors := noticeText p.verbose (p.notices ++ done.booth.log)
        booth := done.booth, addresses := p.addresses, disk := w.disk
        played := if path?.isSome then [] else done.parts }
    match result, path? with
    | .ok _, some path => exportParts w r path segments done base
    | .ok _, none => base
    | .error (.speech fault), _ =>
      { base with ending := .ok 1, errors := base.errors ++ errorText (Error.speech fault).message }
    | .error error, _ => { base with ending := .error (.prompt error) }

/-- Whether a session prints an error and ends, rather than failing. -/
def isHandled : Error → Bool
  | .unmatchedEnd _ | .imbalance _ => true
  | .template (.beyond _) | .template .tooDeep => false
  | .template _ => true
  | _ => false

/-- Compiles what a request asks for, and prints or speaks it. -/
def serve (w : World) (p : Preamble) (r : CommandLine.Request) : Report :=
  let compiled := compile (.ofSeed (r.seed.getD w.entropy) w.room) r.instructions
  let p := { p with notices := p.notices ++ compiled.notices }
  match compiled.result with
  | .error error =>
    if isHandled error then leave w p 1 "" (errorText error.message)
    else fail w p (.prompt error) ""
  | .ok segments => if r.ssml then print w p segments else speak w p r segments

/-- What the command line of a session can look at, where a catalog is used. -/
def surroundings (w : World) (catalog : Catalog) : CommandLine.Surroundings :=
  { disk := w.disk, web := w.web, catalog := catalog, room := w.depth }

/-- Lists the catalog, where a request asks for that, or goes on with the request if there is
something to do. -/
def follow (w : World) (p : Preamble) (catalog : Catalog) (r : CommandLine.Request)
    (goOn : Unit → Report) : Report :=
  if r.listVoices then leave w p 0 (CommandLine.printed catalog.describe) ""
  else if r.instructions.isEmpty then
    leave w p 1 CommandLine.helpText (CommandLine.printed ["Nothing to do"])
  else goOn ()

/-- Goes on with a command line and the catalog for it. -/
def withCatalog (w : World) (verbose : Bool) (notices : List Notice) (catalog : Catalog)
    (words : List String) : Report :=
  let (result, progress) := CommandLine.read (surroundings w catalog) words
  let p : Preamble := ⟨verbose, notices ++ progress.notices, progress.addresses⟩
  match result with
  | .error .help => leave w p 0 CommandLine.helpText ""
  | .error .version => leave w p 0 CommandLine.versionText ""
  | .error (.complaint complaint) =>
    leave w p 2 "" (CommandLine.complaintText CommandLine.usageLines complaint)
  | .error (.disabledVoice name) =>
    leave w p 1 "" (errorText s!"The selected voice, {name}, is disabled")
  | .error (.failure failure) => fail w p (.reading failure) ""
  | .error (.lossy request) =>
    follow w p catalog request fun _ =>
      if request.lacks then fail w p (.reading .lostValue) ""
      else serve w p { request with output := none }
  | .ok request => follow w p catalog request fun _ => serve w p request

/-- What a call of the program with some words does. -/
def run (w : World) (words : List String) : Report :=
  match CommandLine.readEarly words with
  | .error complaint =>
    leave w ⟨false, [], []⟩ 2 ""
      (CommandLine.complaintText CommandLine.earlyUsageLines complaint)
  | .ok early =>
    let (catalog?, notices) := loadCatalog w early.onlineVoices
    match catalog? with
    | .error fault =>
      leave w ⟨early.verbose, notices, []⟩ 1 ""
        (errorText s!"Could not load the online voice list: {fault.message}")
    | .ok catalog => withCatalog w early.verbose notices catalog words

end Session
end Recital
