/-
# Texts that are edited in place

A text that is searched and spliced over and over is kept in two parts around a
cursor, so that a replacement costs what it brings in and how far the cursor has
moved, not the length of the text.

| operation | on the code points |
| --- | --- |
| `ofList`, `toList` | the text |
| `indexWithin` | the leftmost occurrence of a token, if a window on it covers the text |
| `replace` | other code points in place of a stretch |

`toList_ofList`, `indexWithin_eq` and `toList_replace` say so, and whatever is proved of the
code points rests on these laws alone.
-/

import Recital.Text.Pattern
import Recital.Text.Window

namespace Recital
namespace Text

/-- A text around a cursor. -/
structure Cursor where
  before : Array CodePoint
  after : Words

namespace Cursor

/-- A text with the cursor in front of it. -/
def ofList (text : Words) : Cursor := ⟨#[], text⟩

/-- The code points of a text. -/
def toList (c : Cursor) : Words := c.before.toList ++ c.after

/-- The text from index `i` on.  Only its first `count` code points are good. -/
def onwards (c : Cursor) (i count : Nat) : Words :=
  (c.before.extract i (i + count)).toListAppend (c.after.drop (i - c.before.size))

/-- The first index of a window at which the token of a pattern stands. -/
def indexWithin (c : Cursor) (p : Pattern) (w : Window) : Option Nat :=
  if w.first < w.bound then
    let count := w.bound - w.first + p.size - 1
    (p.indexIn count (c.onwards w.first count)).map (w.first + ·)
  else none

/-- The same text with the cursor at index `i`, or at its end. -/
def seek (c : Cursor) (i : Nat) : Cursor :=
  if i ≤ c.before.size then
    let between := c.before.extract i c.before.size
    ⟨c.before.shrink i, between.toListAppend c.after⟩
  else
    let distance := i - c.before.size
    ⟨c.before ++ c.after.take distance, c.after.drop distance⟩

/-- A text with the `length` code points from index `i` on replaced. -/
def replace (c : Cursor) (i length : Nat) (replacement : Words) : Cursor :=
  let c := c.seek i
  ⟨c.before, replacement ++ c.after.drop length⟩

@[simp]
theorem toList_ofList (text : Words) : (ofList text).toList = text := rfl

theorem drop_toList (c : Cursor) {i : Nat} (h : i ≤ c.before.size) :
    c.toList.drop i = c.before.toList.drop i ++ c.after := by
  rw [toList, List.drop_append_of_le_length (by rw [Array.length_toList]; exact h)]

theorem take_onwards (c : Cursor) (i count : Nat) :
    (c.onwards i count).take count = (c.toList.drop i).take count := by
  unfold onwards toList
  rw [Array.toListAppend_eq, Array.toList_extract, List.extract_eq_take_drop,
    Nat.add_sub_cancel_left, List.drop_append, Array.length_toList]
  by_cases enough : i + count ≤ c.before.size
  · have length : ((c.before.toList.drop i).take count).length = count := by
      rw [List.length_take, List.length_drop, Array.length_toList]
      omega
    rw [List.take_left' length, List.take_append_of_le_length]
    rw [List.length_drop, Array.length_toList]
    omega
  · rw [List.take_of_length_le (l := c.before.toList.drop i)]
    rw [List.length_drop, Array.length_toList]
    omega

/-- What occurs in a window occurs at the same place in the part of the text that the window
and the length of the token cut out. -/
theorem indexOf?_drop_take {token text : Words} {w : Window} (covers : w.Covers token text)
    (wide : w.first < w.bound) :
    (indexOf? token ((text.drop w.first).take (w.bound - w.first + token.length - 1))).map
      (w.first + ·) = indexOf? token text := by
  cases found : indexOf? token text with
  | none =>
    have absent := (indexOf?_eq_none_iff token text).1 found
    rw [(indexOf?_eq_none_iff token _).2 fun stands => absent (stands.trans
      ((List.take_prefix ..).isInfix.trans (List.drop_suffix ..).isInfix))]
    rfl
  | some k =>
    obtain ⟨stands, first⟩ := (indexOf?_eq_some_iff token text k).1 found
    obtain ⟨front, back⟩ := covers k (indexOf?_le found) stands
    have here : indexOf? token ((text.drop w.first).take
        (w.bound - w.first + token.length - 1)) = some (k - w.first) := by
      refine (indexOf?_eq_some_iff ..).2 ⟨?_, fun j lt occurs => ?_⟩
      · rw [List.drop_take, List.drop_drop, List.prefix_take_iff,
          Nat.add_sub_cancel' front]
        exact ⟨stands, by omega⟩
      · rw [List.drop_take, List.drop_drop, List.prefix_take_iff] at occurs
        exact first _ (by omega) occurs.1
    rw [here, Option.map_some, Nat.add_sub_cancel' front]

/-- **A search in a window that covers the text finds what a search of the text finds.** -/
theorem indexWithin_eq (c : Cursor) {p : Pattern} {w : Window}
    (covers : w.Covers p.token c.toList) :
    c.indexWithin p w = indexOf? p.token c.toList := by
  unfold indexWithin
  split
  · rename_i wide
    dsimp only
    rw [p.indexIn_eq, take_onwards, p.size_eq, indexOf?_drop_take covers wide]
  · rename_i empty
    cases found : indexOf? p.token c.toList with
    | none => rfl
    | some k =>
      have has := covers k (indexOf?_le found) ((indexOf?_eq_some_iff ..).1 found).1
      exact absurd (Nat.lt_of_le_of_lt has.1 has.2) empty

theorem before_seek (c : Cursor) (i : Nat) : (c.seek i).before.toList = c.toList.take i := by
  unfold seek
  split
  · rename_i h
    rw [toList, List.take_append_of_le_length (by rw [Array.length_toList]; exact h)]
    simp [List.extract_eq_take_drop]
  · rename_i h
    rw [toList, List.take_append, List.take_of_length_le (by rw [Array.length_toList]; omega)]
    simp

theorem after_seek (c : Cursor) (i : Nat) : (c.seek i).after = c.toList.drop i := by
  unfold seek
  split
  · rename_i h
    simp only [drop_toList c h, Array.toListAppend_eq, Array.toList_extract,
      List.extract_eq_take_drop]
    rw [List.take_of_length_le (by simp)]
  · rename_i h
    rw [toList, List.drop_append, List.drop_eq_nil_of_le (by rw [Array.length_toList]; omega)]
    simp

/-- **A replacement keeps what stands before and behind the stretch.** -/
theorem toList_replace (c : Cursor) (i length : Nat) (replacement : Words) :
    (c.replace i length replacement).toList =
      c.toList.take i ++ replacement ++ c.toList.drop (i + length) := by
  rw [replace, toList, before_seek, after_seek, List.drop_drop, List.append_assoc]

end Cursor
end Text
end Recital
