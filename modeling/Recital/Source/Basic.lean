/-
# Fetching text

A file is read as UTF-8, strictly, and its line endings become line feeds.  A page is
decoded leniently in the encoding that it names, UTF-8 if it names none, and its line
endings are kept; an empty page needs no encoding.  What the web answers and which
encodings there are is not known here, and is given.

A location is unreadable for what the system says of it.  Of a file and of an address
that cannot be reached that is said with the location; where the system fails in the
middle of an answer, it is said as it is.  An answer that is no page, and bytes that
cannot be decoded, are none of the system's failures.
-/

import Recital.Disk.Basic
import Recital.Source.Location
import Recital.Text.Lines
import Recital.Text.Utf8

namespace Recital
namespace Source

/-- What comes of asking for a web address: a page, with the encoding that it names; the
reason why it cannot be reached; a failure of the system in the middle of it; or a
failure of another kind, as with an address or an answer that does not follow the
protocol. -/
inductive Reply where
  | page (body : List UInt8) (charset : Option String)
  | unreachable (reason : String)
  | interrupted (message : String)
  | broken (message : String)

/-- What the name of an encoding stands for: one of text, which may fail at some bytes,
or one that gives no text. -/
inductive Codec where
  | text (decode : List UInt8 → Except String String)
  | binary

/-- What there is of the web: the answers to addresses, and the encodings that pages may
be in, by their names. -/
structure Web where
  reply : String → Reply := fun _ => .unreachable "no route to host"
  codec? : String → Option Codec := fun _ => none

/-- Why a location gives no text. -/
inductive Fault where
  | unreadable (location reason : String)
  | unreachable (location reason : String)
  | interrupted (message : String)
  | broken (message : String)
  | badHost (fault : HostFault)
  | badPath (fault : Disk.Fault)
  | unknownEncoding (name : String)
  | noTextEncoding (name : String)
  | nullInEncoding
  | undecodable (fault : Text.Utf8.Fault)
  deriving DecidableEq

/-- The wording of a fault. -/
def Fault.message : Fault → String
  | .unreadable location reason => s!"Could not read {location}: {reason}"
  | .unreachable location reason => s!"Could not download {location}: {reason}"
  | .interrupted message | .broken message => message
  | .badHost fault => fault.message
  | .badPath fault => fault.message
  | .unknownEncoding name => s!"unknown encoding: {name}"
  | .noTextEncoding name =>
    let shown := String.ofList (Text.Utf8.decodeLenient (name.toUTF8.toList.take 400))
    s!"'{shown}' is not a text encoding; use codecs.decode() to handle arbitrary codecs"
  | .nullInEncoding => "embedded null character"
  | .undecodable fault => fault.message

/-- Whether a fault is what the system says of a location. -/
def Fault.isOfSystem : Fault → Bool
  | .unreadable .. | .unreachable .. | .interrupted _ => true
  | _ => false

/-- The name that the program gives itself to the web. -/
def userAgent : String := "promptspeak/1.0"

/-- The name of the encoding of a page. -/
def encodingOf (charset : Option String) : String :=
  match charset with
  | some "" | none => "utf-8"
  | some name => name

/-- The text of bytes in an encoding. -/
def decodeIn (web : Web) (name : String) (body : List UInt8) : Except Fault String :=
  if name.toList.contains (Char.ofNat 0) then .error .nullInEncoding
  else if body.isEmpty then .ok ""
  else match web.codec? name with
    | some (.text decode) => (decode body).mapError .broken
    | some .binary => .error (.noTextEncoding name)
    | none => .error (.unknownEncoding name)

/-- The text behind a location that is a web address. -/
def download (web : Web) (location : String) : Except Fault String :=
  match web.reply (requested location) with
  | .page body charset => decodeIn web (encodingOf charset) body
  | .unreachable reason => .error (.unreachable location reason)
  | .interrupted message => .error (.interrupted message)
  | .broken message => .error (.broken message)

/-- The text of a file. -/
def readFile (disk : Disk) (path : String) : Except Fault String :=
  match disk.read path with
  | .error (.refused refusal _) => .error (.unreadable path refusal.message)
  | .error fault => .error (.badPath fault)
  | .ok bytes =>
    match Text.Utf8.decode bytes with
    | .error fault => .error (.undecodable fault)
    | .ok cs => .ok (String.ofList (Text.unifyNewlines cs))

/-- The text of a location, and the web addresses that were asked for. -/
def fetch (disk : Disk) (web : Web) (location : String) : Except Fault String × List String :=
  match isAddress location with
  | .error fault => (.error (.badHost fault), [])
  | .ok true => (download web location, [requested location])
  | .ok false => (readFile disk location, [])

end Source
end Recital
