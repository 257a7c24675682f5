/-
# Words

Words are what is said, printed and reported: a text as the sequence of its code points.
An escape in a JSON text can spell half of a surrogate pair, which is a code point but no
character, so words may hold what no `String` holds.

| | characters | halves |
| --- | --- | --- |
| `CodePoint` | `U+0000` to `U+D7FF`, `U+E000` to `U+10FFFF` | `U+D800` to `U+DFFF` |

Two halves that come to stand side by side remain two code points.  `readable` is the text
that is left of words where only characters will do, and `readable_ofString` says that it
loses nothing of a text that had no halves.
-/

namespace Recital

/-- A code point. -/
structure CodePoint where
  toNat : Nat
  bounded : toNat < 0x110000
  deriving DecidableEq

namespace CodePoint

/-- The code point of a character. -/
def ofChar (c : Char) : CodePoint := ⟨c.toNat, by
  have := c.valid
  unfold UInt32.isValidChar Nat.isValidChar at this
  unfold Char.toNat
  omega⟩

instance : Coe Char CodePoint := ⟨ofChar⟩

/-- The code point with a number; where there is none it is the replacement character. -/
def ofNat (n : Nat) : CodePoint := if h : n < 0x110000 then ⟨n, h⟩ else ofChar '\uFFFD'

/-- The character of a code point; a half has none and is replaced. -/
def readable (c : CodePoint) : Char :=
  if h : c.toNat.isValidChar then Char.ofNatAux c.toNat h else '\uFFFD'

theorem readable_ofChar (c : Char) : (ofChar c).readable = c := by
  unfold readable
  rw [dif_pos (show (ofChar c).toNat.isValidChar from c.valid)]
  rfl

end CodePoint

/-- A text as the sequence of its code points. -/
abbrev Words := List CodePoint

namespace Words

/-- The words of a text. -/
def ofString (s : String) : Words := s.toList.map CodePoint.ofChar

instance : Coe String Words := ⟨ofString⟩

/-- The characters of words, halves replaced. -/
def readable (w : Words) : String := String.ofList (w.map CodePoint.readable)

/-- **A text is read back from its words.** -/
theorem readable_ofString (s : String) : readable (ofString s) = s := by
  rw [readable, ofString, List.map_map]
  have : CodePoint.readable ∘ CodePoint.ofChar = id := funext CodePoint.readable_ofChar
  rw [this, List.map_id, String.ofList_toList]

end Words
end Recital
