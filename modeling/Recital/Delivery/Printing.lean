/-
# Printing segments

Instead of being spoken, segments can be printed as documents, each under a comment
with its number and its volume.  Printing goes through the input as delivery does: an
interactive segment takes all lines that are left and prints the prompt of each line
that is not blank.
-/

import Recital.Delivery.Basic
import Recital.Segment.Ssml

namespace Recital
namespace Printing

/-- The lines that are printed, up to the first failure. -/
structure Sheet where
  lines : List Words := []
  error : Option Error := none

/-- Two sheets, the second one of which is not begun if the first one failed. -/
def Sheet.then (first second : Sheet) : Sheet :=
  match first.error with
  | some _ => first
  | none => ⟨first.lines ++ second.lines, second.error⟩

/-- The sheet with the document of a segment. -/
def document (s : Segment) : Sheet :=
  match s.ssml Segment.language with
  | .ok text => ⟨[text], none⟩
  | .error error => ⟨[], some error⟩

/-- The documents of the lines of input. -/
def inputDocuments (context : Context) (volume : Int) : List String → Sheet
  | [] => {}
  | line :: lines =>
    if Text.isBlankText line then inputDocuments context volume lines
    else (document (context.prompt line volume)).then (inputDocuments context volume lines)

/-- The comment over a segment. -/
def heading (number : Nat) (s : Segment) : Words :=
  match s.interactive with
  | none => s!"<!-- prompt {number}: volume {s.volume} -->"
  | some _ => s!"<!-- prompt {number}: interactive, volume {s.volume} -->"

/-- The sheet of one segment, and the input that it leaves. -/
def segmentSheet (number : Nat) (s : Segment) (input : Input) : Sheet × Input :=
  let head : Sheet := ⟨[heading number s], none⟩
  match s.interactive with
  | none => (head.then (document s), input)
  | some context =>
    let body := inputDocuments context s.volume input.lines
    let fault : Sheet := ⟨[], input.fault.map .input⟩
    (head.then (body.then fault), {})

/-- The sheet of segments that are numbered from `number` on. -/
def sheetFrom (number : Nat) (input : Input) : List Segment → Sheet
  | [] => {}
  | s :: segments =>
    let (sheet, input) := segmentSheet number s input
    sheet.then (sheetFrom (number + 1) input segments)

/-- The sheet of all segments. -/
def sheet (segments : List Segment) (input : Input) : Sheet := sheetFrom 1 input segments

end Printing
end Recital
