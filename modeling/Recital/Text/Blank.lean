/-
# Blank characters

Blank are the space characters of all widths, the tabs, the characters that
break lines, paragraphs or pages, and the four information separators `U+001C` to
`U+001F`.  A text is blank when all of its characters are; blank texts are never
spoken.
-/

import Recital.Words

namespace Recital
namespace Text

/-- Whether a code point is white space. -/
def isBlank (c : CodePoint) : Bool :=
  let n := c.toNat
  (0x09 ≤ n && n ≤ 0x0D) || (0x1C ≤ n && n ≤ 0x20) || n == 0x85 ||
    n == 0xA0 || n == 0x1680 || (0x2000 ≤ n && n ≤ 0x200A) || n == 0x2028 ||
    n == 0x2029 || n == 0x202F || n == 0x205F || n == 0x3000

/-- Whether nothing but white space stands in a text. -/
def isBlankText (w : Words) : Bool := w.all isBlank

theorem isBlank_of_isWhitespace {c : Char} (h : c.isWhitespace = true) : isBlank c = true := by
  simp only [Char.isWhitespace, Bool.or_eq_true, decide_eq_true_eq] at h
  rcases h with (((rfl | rfl) | rfl) | rfl) <;> rfl

end Text
end Recital
