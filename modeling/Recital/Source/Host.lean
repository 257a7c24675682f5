/-
# Hosts

The host part of a web address stands behind `//` and ends before the next `/`, `?` or
`#`.  A bracket in it has to come with its partner.  What stands behind its last `@` is
then a host in brackets, with nothing before them and nothing or a `:` behind them, or a
host without brackets that ends before the next `:`.  Such a host has to be written as
one of these:

| address | written as |
| --- | --- |
| version 4 | four numbers up to 255 with dots between them, without zeros in front |
| version 6 | eight groups of one to four hexadecimal digits with colons between them |
| a later one | `v`, a version in hexadecimal digits, a dot, and at least one character |

In an address of version 6 the last two groups may be written as an address of version 4,
`::` stands once for one or more groups of zeros, and a zone may follow behind `%`.  An
address of version 4 is none that brackets are for.

No character of a host part may stand for one of the separators `/ ? # @ :` in another
width, size or combination.
-/

import Recital.Text.Quoted

namespace Recital
namespace Source

/-- What is wrong with the host part of a web address. -/
inductive HostFault where
  | misplacedBracket
  | badLaterVersion
  | version4
  | noAddress (host : String)
  | disguisedSeparator (part : String)
  deriving DecidableEq

/-- The wording of a fault of a host part. -/
def HostFault.message : HostFault → String
  | .misplacedBracket => "Invalid IPv6 URL"
  | .badLaterVersion => "IPvFuture address is invalid"
  | .version4 => "An IPv4 address cannot be in brackets"
  | .noAddress host => s!"{Text.quoted host} does not appear to be an IPv4 or IPv6 address"
  | .disguisedSeparator part =>
    "netloc '" ++ part ++ "' contains invalid characters under NFKC normalization"

namespace Host

/-- The host part of what follows a scheme. -/
def part : List Char → List Char
  | '/' :: '/' :: rest => rest.takeWhile fun c => c != '/' && c != '?' && c != '#'
  | _ => []

/-- Whether a character is a hexadecimal digit. -/
def isHexDigit (c : Char) : Bool :=
  c.isDigit || ('a' ≤ c && c ≤ 'f') || ('A' ≤ c && c ≤ 'F')

/-- Whether a text is one of the four numbers of an address of version 4. -/
def isByte (cs : List Char) : Bool :=
  !cs.isEmpty && cs.length ≤ 3 && cs.all Char.isDigit && (cs == ['0'] || cs.head? != some '0') &&
    cs.foldl (fun n c => 10 * n + (c.toNat - '0'.toNat)) 0 ≤ 255

/-- Whether a text is an address of version 4. -/
def isVersion4 (cs : List Char) : Bool :=
  let numbers := cs.splitOn '.'
  numbers.length == 4 && numbers.all isByte

/-- Whether a text is one group of an address of version 6. -/
def isGroup (cs : List Char) : Bool := !cs.isEmpty && cs.length ≤ 4 && cs.all isHexDigit

/-- How many groups the texts between colons stand for, if each is a group or the last
one an address of version 4. -/
def groupCount? : List (List Char) → Option Nat
  | [] => some 0
  | [last] => if isGroup last then some 1 else if isVersion4 last then some 2 else none
  | group :: groups => if isGroup group then (groupCount? groups).map (· + 1) else none

/-- What stands before and behind the first `::`. -/
def splitGap? : List Char → Option (List Char × List Char)
  | [] => none
  | ':' :: ':' :: rest => some ([], rest)
  | c :: rest => (splitGap? rest).map fun (before, behind) => (c :: before, behind)

/-- The texts between colons. -/
def groups (cs : List Char) : List (List Char) := if cs.isEmpty then [] else cs.splitOn ':'

/-- Whether a text is an address of version 6 without a zone. -/
def isUnzoned (cs : List Char) : Bool :=
  match splitGap? cs with
  | none => groupCount? (groups cs) == some 8
  | some (before, behind) =>
    (groups before).all isGroup && match groupCount? (groups behind) with
      | some n => (groups before).length + n < 8
      | none => false

/-- Whether a text is an address of version 6. -/
def isVersion6 (cs : List Char) : Bool :=
  match cs.splitOn '%' with
  | [address] => isUnzoned address
  | [address, zone] => isUnzoned address && !zone.isEmpty
  | _ => false

/-- Whether a text behind `v` is the rest of an address of a later version. -/
def isLaterVersion (cs : List Char) : Bool :=
  let version := cs.takeWhile isHexDigit
  !version.isEmpty && match cs.drop version.length with
    | '.' :: _ :: _ => true
    | _ => false

/-- The fault of a host that has to be written as an address. -/
def addressFault? (host : List Char) : Option HostFault :=
  match host with
  | 'v' :: rest => if isLaterVersion rest then none else some .badLaterVersion
  | _ =>
    if isVersion4 host then some .version4
    else if isVersion6 host then none
    else some (.noAddress (String.ofList host))

/-- The fault of a host part that has brackets. -/
def bracketFault? (part : List Char) : Option HostFault :=
  let place := (part.reverse.takeWhile (· != '@')).reverse
  match place with
  | '[' :: inside =>
    let host := inside.takeWhile (· != ']')
    match inside.drop (host.length + 1) with
    | [] | ':' :: _ => addressFault? host
    | _ => some .misplacedBracket
  | _ =>
    if place.contains '[' then some .misplacedBracket
    else addressFault? (place.takeWhile (· != ':'))

/-- The characters whose compatibility decomposition has a separator in it. -/
def disguisedSeparators : List Char :=
  ['\u2047', '\u2048', '\u2049', '\u2100', '\u2101', '\u2105', '\u2106', '\u2a74', '\ufe13',
    '\ufe16', '\ufe55', '\ufe56', '\ufe5f', '\ufe6b', '\uff03', '\uff0f', '\uff1a', '\uff1f',
    '\uff20']

/-- The fault of a host part, if there is one. -/
def fault? (part : List Char) : Option HostFault :=
  let bracket :=
    if part.contains '[' && part.contains ']' then bracketFault? part
    else if part.contains '[' || part.contains ']' then some .misplacedBracket
    else none
  match bracket with
  | some fault => some fault
  | none =>
    if part.any disguisedSeparators.contains then some (.disguisedSeparator (String.ofList part))
    else none

end Host
end Source
end Recital
