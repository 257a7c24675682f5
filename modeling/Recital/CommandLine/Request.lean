/-
# What a command line asks for

The steps of a command line are followed in order.  An option that stands for an
instruction adds it to the list; building the instruction may need a file, a page or
the catalog of voices, and may fail.  Three things end the work early: an option that
prints something, a complaint about the command line, and a failure that is none of
the user's.  Words that belong to no option are complained about last, all at once.

The value `--` is lost on its way to its option, and the empty list comes in its place.  A
text takes it, and so do the options that are only kept, as long as they are not given again:

| value lost | what stands in its place |
| --- | --- |
| of a text | `lostText` among the instructions |
| of the output, the default voice or the seed | the option among those that are `lost` |
| of any other option | a failure |

The work goes on then; but what it ends with is a request that lacks something, which is told
apart from a request.
-/

import Recital.Catalog
import Recital.CommandLine.Promotion
import Recital.CommandLine.Reading
import Recital.Delivery.Basic
import Recital.Source.Basic

namespace Recital
namespace CommandLine

/-- What a command line asks for. -/
structure Request where
  instructions : List Instruction := []
  verbose : Bool := false
  onlineVoices : Bool := false
  listVoices : Bool := false
  ssml : Bool := false
  output : Option String := none
  defaultVoice : String := Recital.defaultVoice
  seed : Option Int := none
  lost : List Flag := []

/-- A request where the value of an option is not lost, now that there is one. -/
def Request.kept (r : Request) (flag : Flag) : Request :=
  { r with lost := r.lost.filter (· != flag) }

/-- Whether something is lost that a request needs.  It can do without an output, and prints
documents without a default voice. -/
def Request.lacks (r : Request) : Bool :=
  let needs (flag : Flag) : Bool := flag == .seed || flag == .defaultVoice && !r.ssml
  r.lost.any needs || r.instructions.any fun
    | .foreign _ => true
    | _ => false

/-- Why a value does not suit its option. -/
inductive Unsuitable where
  | defect (defect : Instruction.Defect)
  | notWhole (word : String)
  | notANumberTo (top : Nat)
  | notAnInteger (word : String)
  | source (fault : Source.Fault)
  | template (location : String) (fault : Template.Fault)

/-- The wording of the reason. -/
def Unsuitable.message : Unsuitable → String
  | .defect d => d.message
  | .notWhole word => s!"expected a whole number, got {Text.quoted word}"
  | .notANumberTo top => s!"must be followed by a number from 0 to {top}"
  | .notAnInteger word => s!"invalid int value: {Text.quoted word}"
  | .source fault => fault.message
  | .template location fault => s!"{location}: {fault.message}"

/-- What is wrong with a command line. -/
inductive Complaint where
  | withoutValue (flag : Flag)
  | needlessValue (flag : Flag) (value : String)
  | unsuitable (flag : Flag) (reason : Unsuitable)
  | unrecognized (words : List String)

/-- The wording of a complaint. -/
def Complaint.message : Complaint → String
  | .withoutValue flag => s!"argument {flag.label}: expected one argument"
  | .needlessValue flag value =>
    s!"argument {flag.label}: ignored explicit argument {Text.quoted value}"
  | .unsuitable flag reason => s!"argument {flag.label}: {reason.message}"
  | .unrecognized words => "unrecognized arguments: " ++ " ".intercalate words

/-- A failure that is no complaint about the command line. -/
inductive Failure where
  | source (fault : Source.Fault)
  | limit (limit : Json.Limit)
  | lostValue

/-- The wording of a failure. -/
def Failure.message : Failure → String
  | .source fault => fault.message
  | .limit l => l.message
  | .lostValue => "the value -- is lost"

/-- Why a command line gives no request.  One that is `lossy` asks for something, but a value
was lost. -/
inductive Halt where
  | help
  | version
  | complaint (complaint : Complaint)
  | disabledVoice (name : String)
  | failure (failure : Failure)
  | lossy (request : Request)

/-- What a command line can look at, and the room for the containers of a template. -/
structure Surroundings where
  disk : Disk := {}
  web : Source.Web := {}
  catalog : Catalog := Catalog.builtIn
  room : Nat := 0

/-- How far a command line is followed: the request, the words that belong to no
option, whether the words of a text were lost, what was reported, and the addresses that
were asked for. -/
structure Progress where
  request : Request := {}
  extras : List String := []
  lossy : Bool := false
  notices : List Notice := []
  addresses : List String := []

/-- A step of following a command line. -/
abbrev Follow := ExceptT Halt (StateM Progress)

/-- Changes the request. -/
def change (f : Request → Request) : Follow Unit :=
  modify fun p => { p with request := f p.request }

/-- Adds an instruction. -/
def add (x : Instruction) : Follow Unit :=
  change fun r => { r with instructions := r.instructions ++ [x] }

/-- Ends with a complaint about the value of an option. -/
def refuse (flag : Flag) {α : Type} (reason : Unsuitable) : Follow α :=
  throw (.complaint (.unsuitable flag reason))

/-- An instruction, or a complaint about the value it was built from. -/
def accept (flag : Flag) (x : Except Instruction.Defect Instruction) : Follow Unit :=
  match x with
  | .ok x => add x
  | .error d => refuse flag (.defect d)

/-- The text of a location.  What the system says of it is complained about; everything
else that keeps it from being read is a failure. -/
def fetch (s : Surroundings) (flag : Flag) (location : String) : Follow String := do
  let (result, addresses) := Source.fetch s.disk s.web location
  modify fun p => { p with addresses := p.addresses ++ addresses }
  match result with
  | .ok text => return text
  | .error fault =>
    if fault.isOfSystem then refuse flag (.source fault)
    else throw (.failure (.source fault))

/-- Adds the voice that a name finds. -/
def addVoice (s : Surroundings) (name : String) : Follow Unit := do
  match s.catalog.resolve? name with
  | none =>
    modify fun p => { p with notices := p.notices ++ [.noSuchVoice name] }
    add (.voice none)
  | some voice =>
    if s.catalog.isEnabled voice then add (.voice (some voice))
    else throw (.disabledVoice voice.name)

/-- Adds the template of a location. -/
def addTemplate (s : Surroundings) (location : String) : Follow Unit := do
  let document ← fetch s .template location
  match Template.load s.room document with
  | .ok _ => add (.template document)
  | .error (.beyond limit) => throw (.failure (.limit limit))
  | .error fault => refuse .template (.template location fault)

/-- Follows an option with its value; one without a value has the empty one. -/
def useFlag (s : Surroundings) (flag : Flag) (value : String) : Follow Unit :=
  match flag with
  | .help => throw .help
  | .version => throw .version
  | .verbose => change fun r => { r with verbose := true }
  | .onlineVoices => change fun r => { r with onlineVoices := true }
  | .listVoices => change fun r => { r with listVoices := true }
  | .ssml => change fun r => { r with ssml := true }
  | .output => change fun r => { r.kept .output with output := some value }
  | .defaultVoice => change fun r => { r.kept .defaultVoice with defaultVoice := value }
  | .seed =>
    match Text.wholeNumber? value with
    | some n => change fun r => { r.kept .seed with seed := some n }
    | none => refuse .seed (.notAnInteger value)
  | .text => add (.text value)
  | .textFile => do
    let text ← fetch s .textFile value
    add (.text text)
  | .voice => addVoice s value
  | .dial dial =>
    match Text.wholeNumber? value with
    | some n => accept flag (Instruction.ofLevel dial (.integer n))
    | none => refuse flag (.notANumberTo dial.top)
  | .loop fade =>
    match Text.wholeNumber? value with
    | some n => accept flag (Instruction.ofCount (.integer n) (.ok fade))
    | none => refuse flag (.notWhole value)
  | .reset => add .reset
  | .sentence => add .beginSentence
  | .endSentence => add .endSentence
  | .paragraph => add .beginParagraph
  | .endParagraph => add .endParagraph
  | .interactive => add .interactive
  | .template => addTemplate s value

/-- What stands in the list of instructions for a text whose words were lost. -/
def lostText : Instruction := .foreign (.list [])

/-- Follows an option whose value was lost. -/
def useLost (flag : Flag) : Follow Unit :=
  match flag with
  | .text => do
    modify fun p => { p with lossy := true }
    add lostText
  | .output | .defaultVoice | .seed => change fun r => { r with lost := flag :: r.lost }
  | _ => throw (.failure .lostValue)

/-- Follows a step.  The value `--` is lost on its way to its option. -/
def useStep (s : Surroundings) (step : Step) : Follow Unit :=
  match step with
  | .given flag (some "--") => useLost flag
  | .given flag value => useFlag s flag (value.getD "")
  | .withoutValue flag => throw (.complaint (.withoutValue flag))
  | .needlessValue flag value => throw (.complaint (.needlessValue flag value))
  | .extra word => modify fun p => { p with extras := p.extras ++ [word] }

/-- Follows all steps, and complains about the words that belong to no option. -/
def useSteps (s : Surroundings) (steps : List Step) : Follow Request := do
  steps.forM (useStep s)
  let p ← get
  if !p.extras.isEmpty then throw (.complaint (.unrecognized p.extras))
  else if p.lossy || !p.request.lost.isEmpty then throw (.lossy p.request)
  else return p.request

/-- The request of words that are taken as they are. -/
def readWords (s : Surroundings) (words : List String) : Except Halt Request × Progress :=
  (useSteps s (steps Flag.all words)).run {}

/-- The request of a command line. -/
def read (s : Surroundings) (words : List String) : Except Halt Request × Progress :=
  readWords s (promote words)

/-- What the early options of a command line ask for; all other words are passed
over. -/
def readEarly (words : List String) : Except Complaint Request :=
  let known := (steps Flag.early words).filter fun
    | .extra _ => false
    | _ => true
  match ((useSteps {} known).run {}).1 with
  | .ok request => .ok request
  | .error (.complaint complaint) => .error complaint
  | .error _ => .ok {}

end CommandLine
end Recital
