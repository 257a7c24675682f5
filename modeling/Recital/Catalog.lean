/-
# Voice catalogs

A catalog lists voices.  A query finds the first voice whose id it is or whose name
contains it, case aside; both are looked at voice by voice.  The catalog that is
built in is a list of ids, from which the names and places of the voices are read:
`en-US-AriaNeural` is the voice `Aria` of `en-US`.  The online catalog is a list of
objects with more about each voice; what they say of its place and its gender is kept
as it is, of whatever type.
-/

import Recital.Text.Casing
import Recital.Text.Pattern
import Recital.Value
import Recital.Voice

namespace Recital

/-- A voice of a catalog. -/
structure CatalogEntry where
  id : String
  name : String
  locale : Value := .text ""
  gender : Value := .text ""
  enabled : Bool := true

/-- The voice of an entry. -/
def CatalogEntry.voice (e : CatalogEntry) : Voice := ⟨e.id, e.name⟩

/-- The lines that describe an entry. -/
def CatalogEntry.describe (e : CatalogEntry) : List Words :=
  let id := if e.enabled then e.id else e.id ++ " (disabled)"
  let gender : List Words := if e.gender.isVoid then [] else [" Gender: " ++ e.gender.plain]
  id :: (" Name: " ++ e.name) :: (" Locale: " ++ e.locale.plain) :: gender

/-- A list of voices. -/
structure Catalog where
  entries : List CatalogEntry

namespace Catalog

/-- The end of ids that is no part of a name. -/
def idEnding : List Char := "Neural".toList

/-- The name in the last part of an id. -/
def nameOf (part : List Char) : List Char :=
  if idEnding.isSuffixOf part then part.take (part.length - idEnding.length) else part

/-- The entry that an id says of itself: the name behind its last dash and the locale
before it. -/
def entryOfId (id : String) : CatalogEntry :=
  let cs := id.toList
  let name := (cs.reverse.takeWhile (· != '-')).reverse
  let locale := cs.take (cs.length - name.length - 1)
  { id := id, name := String.ofList (nameOf name), locale := .text (String.ofList locale) }

/-- The ids of the voices that are built in. -/
def builtInIds : List String :=
  ["en-US-AriaNeural", "en-US-DavisNeural", "en-US-GuyNeural", "en-US-JennyNeural",
    "en-US-RogerNeural", "en-US-TonyNeural", "en-US-SaraNeural", "en-GB-RyanNeural",
    "en-GB-SoniaNeural", "en-GB-ThomasNeural", "en-AU-NatashaNeural", "en-AU-WilliamNeural",
    "en-CA-ClaraNeural", "en-CA-LiamNeural", "en-IN-NeerjaNeural", "en-IN-PrabhatNeural",
    "en-IE-EmilyNeural"]

/-- The catalog that is built in. -/
def builtIn : Catalog := ⟨builtInIds.map entryOfId⟩

/-- Why there is no online catalog. -/
inductive Fault where
  | offline
  | withoutId
  | idOfType (typeName : String)
  deriving DecidableEq

/-- The wording of a fault. -/
def Fault.message : Fault → String
  | .offline => "offline"
  | .withoutId => "'ShortName'"
  | .idOfType typeName => s!"'{typeName}' object has no attribute 'rpartition'"

/-- The entry of a voice of the online list, which has to have an id; a deprecated voice
is disabled. -/
def entryOfListing (listing : Value) : Except Fault CatalogEntry :=
  match listing.member? "ShortName" with
  | none => .error .withoutId
  | some (.text id) =>
    let own := entryOfId (Words.readable id)
    .ok
      { own with
        locale := (listing.member? "Locale").getD own.locale
        gender := (listing.member? "Gender").getD own.gender
        enabled := match listing.member? "Status" with
          | some (.text status) => status != "Deprecated"
          | _ => true }
  | some other => .error (.idOfType other.typeName)

/-- The catalog of an online list. -/
def ofListings (listings : List Value) : Except Fault Catalog := do
  let entries ← listings.mapM entryOfListing
  return ⟨entries⟩

/-- Whether an entry answers a query. -/
def answers (query : String) (e : CatalogEntry) : Bool :=
  e.id == query || Text.occursIn (Text.lower query) (Text.lower e.name)

/-- The first entry that answers a query. -/
def find? (c : Catalog) (query : String) : Option CatalogEntry :=
  c.entries.find? (answers query)

/-- The voice that a query finds. -/
def resolve? (c : Catalog) (query : String) : Option Voice :=
  (c.find? query).map CatalogEntry.voice

/-- Whether an entry with the id of a voice is enabled. -/
def isEnabled (c : Catalog) (v : Voice) : Bool :=
  c.entries.any fun e => e.id == v.id && e.enabled

/-- The lines that describe a catalog. -/
def describe (c : Catalog) : List Words := c.entries.flatMap CatalogEntry.describe

end Catalog
end Recital
