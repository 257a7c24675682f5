/-
# Trailing settings

A setting affects what follows it, so settings at the end of a list affect nothing.
They are moved to the front, in their order, where they affect everything; a list
that holds nothing else is left as it is.
-/

import Recital.Instruction
import Recital.Notice

namespace Recital
namespace Instruction

/-- The number of settings at the end of a list. -/
def trailingCount (xs : List Instruction) : Nat := (xs.reverse.takeWhile isControl).length

/-- A list with its trailing settings at the front, and what there is to report. -/
def leadSettings (xs : List Instruction) : List Instruction × List Notice :=
  let count := trailingCount xs
  if count = 0 then (xs, [])
  else if count = xs.length then (xs, [.nothingToRead])
  else
    let split := xs.length - count
    (xs.drop split ++ xs.take split, [.settingsMoved count])

end Instruction
end Recital
