/-
# Balanced segments

A segment is balanced when its scopes close innermost first, no kind is open twice
at a time, and none is left open.
-/

import Recital.Error

namespace Recital
namespace Segment

/-- Follows the events of a segment with the kinds that are open, innermost
first. -/
def checkEvents (stack : List Kind) : List Event → Except Imbalance Unit
  | [] => if stack.isEmpty then .ok () else .error (.leftOpen stack.length)
  | .text _ :: events => checkEvents stack events
  | .opening scope :: events =>
    if stack.contains scope.kind then .error (.openedTwice scope.kind)
    else checkEvents (scope.kind :: stack) events
  | .closing scope :: events =>
    match stack with
    | top :: rest =>
      if top = scope.kind then checkEvents rest events
      else .error (.closedOutOfOrder scope.kind)
    | [] => .error (.closedOutOfOrder scope.kind)

/-- What is wrong with the scopes of a segment, if anything. -/
def checkBalanced (s : Segment) : Except Imbalance Unit := checkEvents [] s.events

end Segment
end Recital
