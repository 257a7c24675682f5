/-
# Locations

Text comes from a file or from the web.  A location is a web address when it starts
with one of four schemes and a colon.  Spaces and control characters in front do not
count, nor do tabs and line breaks anywhere in it.  A scheme is an ASCII letter and
then letters, digits, `+`, `-` and `.`, in either case.  What is asked for is the
location without the blanks around it and without an empty fragment.
-/

import Recital.Source.Host
import Recital.Text.Blank

namespace Recital
namespace Source

/-- The schemes of web addresses. -/
def schemes : List String := ["http", "https", "ftp", "file"]

/-- Whether a character may stand in a scheme. -/
def isSchemeChar (c : Char) : Bool := c.isAlphanum || c == '+' || c == '-' || c == '.'

/-- The scheme of an address, in lower case, and what follows its colon.  Without a
scheme all of the address follows. -/
def splitScheme (cs : List Char) : String × List Char :=
  let before := cs.takeWhile (· != ':')
  match before, cs.drop before.length with
  | c :: more, _ :: after =>
    if c.isAlpha && more.all isSchemeChar then
      (String.ofList (before.map Char.toLower), after)
    else ("", cs)
  | _, _ => ("", cs)

/-- The characters of a location that count. -/
def significant (location : List Char) : List Char :=
  (location.dropWhile fun c => c.toNat ≤ 0x20).filter fun c => c != '\t' && c != '\r' && c != '\n'

/-- Whether a location is a web address, unless its host is at fault. -/
def isAddress (location : String) : Except HostFault Bool :=
  let (scheme, rest) := splitScheme (significant location.toList)
  match Host.fault? (Host.part rest) with
  | some fault => .error fault
  | none => .ok (schemes.contains scheme)

/-- The web address that is asked for. -/
def requested (location : String) : String :=
  let blank (c : Char) : Bool := Text.isBlank c
  match (location.toList.dropWhile blank).reverse.dropWhile blank with
  | '#' :: rest => String.ofList rest.reverse
  | address => String.ofList address.reverse

end Source
end Recital
