/-
# UTF-8

A lead byte fixes how many continuation bytes follow and, for four of the leads,
narrows the first of them, which rules out overlong forms, surrogates and code
points past the last one:

| lead | continuations | first continuation |
| --- | ---: | --- |
| `00`–`7F` | 0 | |
| `C2`–`DF` | 1 | `80`–`BF` |
| `E0` | 2 | `A0`–`BF` |
| `E1`–`EC`, `EE`, `EF` | 2 | `80`–`BF` |
| `ED` | 2 | `80`–`9F` |
| `F0` | 3 | `90`–`BF` |
| `F1`–`F3` | 3 | `80`–`BF` |
| `F4` | 3 | `80`–`8F` |

Where the bytes break off or leave the table, the longest prefix that still fits
it is the faulty span.  Strict reading stops at the first fault; lenient reading
writes one replacement character for each faulty span and goes on behind it.
-/

import Recital.Text.Quoted

namespace Recital
namespace Text
namespace Utf8

/-- Why bytes are not a character. -/
inductive Reason where
  | badStart
  | badContinuation
  | truncated
  deriving DecidableEq

/-- The wording of a reason. -/
def Reason.message : Reason → String
  | .badStart => "invalid start byte"
  | .badContinuation => "invalid continuation byte"
  | .truncated => "unexpected end of data"

/-- A faulty span: its first byte, where it starts, and how many bytes it has. -/
structure Fault where
  lead : UInt8
  position : Nat
  length : Nat
  reason : Reason
  deriving DecidableEq

/-- The wording of a fault.  A span of one byte shows the byte. -/
def Fault.message (f : Fault) : String :=
  let place :=
    if f.length = 1 then
      "byte 0x" ++ String.ofList (hexadecimal 2 f.lead.toNat) ++ s!" in position {f.position}"
    else s!"bytes in position {f.position}-{f.position + f.length - 1}"
  s!"'utf-8' codec can't decode {place}: {f.reason.message}"

/-- What a lead byte asks for: the bits it gives, the number of continuation
bytes, and the bounds of the first of them. -/
def lead? (a : Nat) : Option (Nat × Nat × Nat × Nat) :=
  if a < 0x80 then some (a, 0, 0x80, 0xBF)
  else if a < 0xC2 then none
  else if a < 0xE0 then some (a - 0xC0, 1, 0x80, 0xBF)
  else if a = 0xE0 then some (0, 2, 0xA0, 0xBF)
  else if a = 0xED then some (0xD, 2, 0x80, 0x9F)
  else if a < 0xF0 then some (a - 0xE0, 2, 0x80, 0xBF)
  else if a = 0xF0 then some (0, 3, 0x90, 0xBF)
  else if a < 0xF4 then some (a - 0xF0, 3, 0x80, 0xBF)
  else if a = 0xF4 then some (4, 3, 0x80, 0x8F)
  else none

/-- The continuation bytes of a character: its code point, or why it breaks off,
with the number of bytes that fit. -/
def continuations (value lo hi : Nat) : Nat → List UInt8 → Except Reason Char × Nat
  | 0, _ => (.ok (Char.ofNat value), 0)
  | _ + 1, [] => (.error .truncated, 0)
  | n + 1, b :: bs =>
    if lo ≤ b.toNat ∧ b.toNat ≤ hi then
      let (result, used) := continuations (64 * value + b.toNat % 64) 0x80 0xBF n bs
      (result, used + 1)
    else (.error .badContinuation, 0)

/-- The character that starts with byte `a`, and how many bytes of `rest` belong
to it or to the faulty span. -/
def character (a : UInt8) (rest : List UInt8) : Except Reason Char × Nat :=
  match lead? a.toNat with
  | none => (.error .badStart, 0)
  | some (value, count, lo, hi) => continuations value lo hi count rest

/-- The characters and faulty spans of a byte string.  The first `skip` bytes
belong to what was read before. -/
def scan (position skip : Nat) : List UInt8 → List (Except Fault Char)
  | [] => []
  | a :: rest =>
    match skip with
    | skip + 1 => scan (position + 1) skip rest
    | 0 =>
      let (result, used) := character a rest
      let item := match result with
        | .ok c => .ok c
        | .error reason => .error ⟨a, position, used + 1, reason⟩
      item :: scan (position + 1) used rest

/-- Strict reading: all characters, or the first fault. -/
def decode (bytes : List UInt8) : Except Fault (List Char) :=
  (scan 0 0 bytes).mapM id

/-- The characters before the first fault, and that fault, if there is one. -/
def readUpTo (bytes : List UInt8) : List Char × Option Fault :=
  match decode bytes with
  | .ok cs => (cs, none)
  | .error fault => ((scan 0 0 (bytes.take fault.position)).filterMap Except.toOption, some fault)

/-- The character that stands for a faulty span. -/
def replacement : Char := Char.ofNat 0xFFFD

/-- Lenient reading. -/
def decodeLenient (bytes : List UInt8) : List Char :=
  (scan 0 0 bytes).map fun
    | .ok c => c
    | .error _ => replacement

end Utf8

end Text
end Recital
