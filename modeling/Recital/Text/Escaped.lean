/-
# Escaped text

Text inside markup: the three characters that could be taken for markup and the two
quotes are written as character references, and every other character stands for
itself.
-/

import Recital.Words

namespace Recital
namespace Text

/-- How a code point is written inside markup. -/
def escapedPoint (c : CodePoint) : Words :=
  if c = '&' then "&amp;"
  else if c = '<' then "&lt;"
  else if c = '>' then "&gt;"
  else if c = '"' then "&quot;"
  else if c = '\'' then "&#x27;"
  else [c]

/-- A text inside markup. -/
def escaped (w : Words) : Words := w.flatMap escapedPoint

end Text
end Recital
