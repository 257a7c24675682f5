/-
# Prompts under construction

A draft takes instructions one at a time and turns them into segments.  Voice,
style, sentence and paragraph are scopes on one stack, of which at most one of each
kind is open, and they close innermost first: changing a scope that others are
nested in closes those too and opens them again inside the new one.

| instruction | scopes |
| --- | --- |
| text, template | none |
| voice, rate, emphasis, voice volume | the scope is replaced and keeps what is inside |
| begin sentence or paragraph | closes the open one with the structure inside, then opens |
| end sentence or paragraph | closes it with the structure inside; settings inside stay |
| output volume, if it changes | ends the segment; settings are opened again |
| interactive | ends the segment, adds one for live input; settings are opened again |
| reset | closes all scopes and forgets the settings |

The volume belongs to a whole segment.  So a reset leaves the volume of what was
already said alone and only schedules the full volume, which the next instruction
brings about unless it sets a volume itself or resets again.
-/

import Recital.Error
import Recital.Template.Search

namespace Recital

/-- A prompt under construction: the open scopes, innermost first, the settings in
force, the volume scheduled by a reset, the events of the segment at hand and the
segments that are complete, both newest first, and the source of the choices to
come. -/
structure Draft where
  scopes : List Scope := []
  style : Style := {}
  voice : Option Voice := none
  volume : Int := fullVolume
  scheduled : Option Int := none
  events : List Event := []
  segments : List Segment := []
  chooser : Chooser

/-- The scope of a kind with those inside it, innermost first, and the scopes
around it. -/
def Scope.splitAt? (kind : Kind) : List Scope → Option (List Scope × Scope × List Scope)
  | [] => none
  | s :: around =>
    if s.kind = kind then some ([], s, around)
    else (splitAt? kind around).map fun (inside, found, around) => (s :: inside, found, around)

namespace Draft

/-- Opens scopes, the first one outermost. -/
def openScopes (d : Draft) (scopes : List Scope) : Draft :=
  let inwards := scopes.reverse
  { d with scopes := inwards ++ d.scopes, events := inwards.map Event.opening ++ d.events }

/-- Closes all scopes. -/
def closeAll (d : Draft) : Draft :=
  { d with scopes := [], events := d.scopes.reverse.map Event.closing ++ d.events }

/-- Closes the scope of a kind with those inside it, and opens `scopes` in its place
with those of the inner ones that `keep` accepts inside them.  Where no scope of
that kind is open nothing is closed. -/
def replaceScope (d : Draft) (kind : Kind) (scopes : List Scope) (keep : Scope → Bool) : Draft :=
  match Scope.splitAt? kind d.scopes with
  | none => d.openScopes scopes
  | some (inside, found, around) =>
    let outwards := found :: inside.reverse
    let closed := { d with scopes := around, events := outwards.map Event.closing ++ d.events }
    closed.openScopes (scopes ++ inside.reverse.filter keep)

/-- Adds a text. -/
def say (d : Draft) (words : Words) : Draft := { d with events := .text words :: d.events }

/-- Ends the segment at hand; one without text is dropped. -/
def endSegment (d : Draft) : Draft :=
  let closed := d.closeAll
  let segment : Segment := { events := closed.events.reverse, volume := closed.volume }
  { closed with
    events := []
    segments := if segment.hasText then segment :: closed.segments else closed.segments }

/-- Opens the scopes of the settings in force. -/
def openSettings (d : Draft) : Draft :=
  let voice := d.voice.toList.map fun v => Scope.voice (some v)
  let style := if d.style.isPlain then [] else [.style d.style]
  d.openScopes (voice ++ style)

/-- Changes the volume, which takes a new segment. -/
def changeVolume (d : Draft) (volume : Int) : Draft :=
  if volume = d.volume then d
  else { d.endSegment with volume := volume }.openSettings

/-- Brings the scheduled volume about. -/
def applySchedule (d : Draft) : Draft :=
  match d.scheduled with
  | none => d
  | some volume => { d with scheduled := none }.changeVolume volume

/-- Changes the style. -/
def setStyle (d : Draft) (style : Style) : Draft :=
  { d with style := style }.replaceScope .style [.style style] fun _ => true

/-- Turns a dial. -/
def turn (d : Draft) (dial : Dial) (level : Int) : Draft :=
  match dial with
  | .rate => d.setStyle { d.style with rate := level }
  | .emphasis => d.setStyle { d.style with emphasis := level }
  | .voiceVolume => d.setStyle { d.style with volume := level }
  | .outputVolume => { d with scheduled := none }.changeVolume level

/-- Changes the voice, or goes back to none. -/
def setVoice (d : Draft) (voice : Option Voice) : Draft :=
  let scopes := voice.toList.map fun v => Scope.voice (some v)
  { d with voice := voice }.replaceScope .voice scopes fun _ => true

/-- Begins a sentence or paragraph, which ends the one that is open. -/
def beginStructure (d : Draft) (scope : Scope) : Draft :=
  d.replaceScope scope.kind [scope] fun s => s.kind.isAmbient

/-- Ends a sentence or paragraph. -/
def endStructure (d : Draft) (kind : Kind) : Draft × Option Error :=
  if d.scopes.any fun s => s.kind = kind then
    (d.replaceScope kind [] fun s => s.kind.isAmbient, none)
  else (d, some (.unmatchedEnd kind))

/-- Adds a segment that reads live input. -/
def listen (d : Draft) : Draft :=
  let ended := d.endSegment
  let segment : Segment := { volume := d.volume, interactive := some ⟨d.voice, d.style⟩ }
  { ended with segments := segment :: ended.segments }.openSettings

/-- Goes back to the defaults. -/
def reset (d : Draft) : Draft :=
  { d.closeAll with style := {}, voice := none, scheduled := some fullVolume }

/-- Adds the text of a template. -/
def sayTemplate (d : Draft) (document : String) : Draft × Option Error :=
  let (result, chooser) := (Template.expandDocument document Template.start).run d.chooser
  let d := { d with chooser := chooser }
  match result with
  | .ok words => (d.say words, none)
  | .error fault => (d, some (.template fault))

/-- Whether an instruction leaves a scheduled volume as it is, because it sets or
schedules one itself. -/
def overridesSchedule : Instruction → Bool
  | .turn .outputVolume _ | .reset => true
  | _ => false

/-- Follows one instruction.  Where that fails, the draft is left as far as the
instruction got. -/
def apply (d : Draft) (x : Instruction) : Draft × Option Error :=
  let d := if overridesSchedule x then d else d.applySchedule
  match x with
  | .text words => (d.say words, none)
  | .template document => d.sayTemplate document
  | .voice voice => (d.setVoice voice, none)
  | .turn dial level => (d.turn dial level.val, none)
  | .reset => (d.reset, none)
  | .beginSentence => (d.beginStructure .sentence, none)
  | .endSentence => d.endStructure .sentence
  | .beginParagraph => (d.beginStructure .paragraph, none)
  | .endParagraph => d.endStructure .paragraph
  | .interactive => (d.listen, none)
  | .loop _ => (d, some .unexpandedLoop)
  | .foreign what => (d, some (.notAnInstruction what))

/-- Follows a list of instructions up to the first that fails. -/
def applyAll (d : Draft) : List Instruction → Except Error Draft
  | [] => .ok d
  | x :: xs =>
    match d.apply x with
    | (d, none) => d.applyAll xs
    | (_, some error) => .error error

/-- The segments of a draft that ends here. -/
def finish (d : Draft) : List Segment := d.endSegment.segments.reverse

end Draft

/-- The segments that a list of instructions without loops describes. -/
def buildSegments (chooser : Chooser) (xs : List Instruction) : Except Error (List Segment) := do
  let d ← Draft.applyAll { chooser := chooser } xs
  return d.finish

/-- The prompt for one line of live input. -/
def Context.prompt (context : Context) (line : Words) (volume : Int) : Segment :=
  let d : Draft :=
    { voice := context.voice, style := context.style, volume := volume, chooser := .scripted [] 0 }
  { events := ((d.openSettings.say line).closeAll).events.reverse, volume := volume }

end Recital
