/-
# Escapes read back

Five characters are written as a character reference inside markup.  Reading goes the other
way: an ampersand begins the name of a reference, a semicolon ends it, and every character
outside of a name stands for itself.

| read so far | `&` | `;` | another character |
| --- | --- | --- | --- |
| no open name | opens a name | itself | itself |
| an open name | part of the name | what the name stands for, if it is known | part of the name |

Reading is strict: it gives up on a name that is not one of the five or has no end.  What
was escaped is read back in full (`unescaped_escaped`), each of its ampersands begins one of
the five references (`referenced_escaped`), and it has neither angle brackets nor quotes
(`not_mem_escaped`).
-/

import Recital.Text.Escaped
import Mathlib.Data.List.Infix

namespace Recital
namespace Text

/-- The names of the references, with the characters they stand for. -/
def references : List (Words × CodePoint) :=
  [("amp", '&'), ("lt", '<'), ("gt", '>'), ("quot", '"'), ("#x27", '\'')]

/-- Reads on where the name of a reference may be open. -/
def unescapedFrom : Option Words → Words → Option Words
  | none, [] => some []
  | some _, [] => none
  | none, c :: w =>
    if c = '&' then unescapedFrom (some []) w else (unescapedFrom none w).map (c :: ·)
  | some name, c :: w =>
    if c = ';' then
      (references.lookup name).bind fun point => (unescapedFrom none w).map (point :: ·)
    else unescapedFrom (some (name ++ [c])) w

/-- The text that was escaped, if there is one. -/
def unescaped (w : Words) : Option Words := unescapedFrom none w

/-- Whether each ampersand begins one of the references. -/
def Referenced (w : Words) : Prop :=
  ∀ before after, w = before ++ CodePoint.ofChar '&' :: after →
    ∃ reference ∈ references, reference.1 ++ [CodePoint.ofChar ';'] <+: after

/-- A code point is one of the five with a reference, or it is written as it is. -/
theorem escapedPoint_cases (c : CodePoint) :
    (∃ reference ∈ references, c = reference.2 ∧
      escapedPoint c = CodePoint.ofChar '&' :: reference.1 ++ [CodePoint.ofChar ';']) ∨
    (∀ reference ∈ references, c ≠ reference.2) ∧ escapedPoint c = [c] := by
  rw [escapedPoint]
  split_ifs with amp lt gt quot apos
  · exact .inl ⟨("amp", '&'), by decide, amp, rfl⟩
  · exact .inl ⟨("lt", '<'), by decide, lt, rfl⟩
  · exact .inl ⟨("gt", '>'), by decide, gt, rfl⟩
  · exact .inl ⟨("quot", '"'), by decide, quot, rfl⟩
  · exact .inl ⟨("#x27", '\''), by decide, apos, rfl⟩
  · exact .inr ⟨by simp [references, *], rfl⟩

theorem escaped_cons (c : CodePoint) (w : Words) :
    escaped (c :: w) = escapedPoint c ++ escaped w := List.flatMap_cons

section Reading

/-- A name is read up to the semicolon. -/
theorem unescapedFrom_name {more : Words} (h : CodePoint.ofChar ';' ∉ more) (name w : Words) :
    unescapedFrom (some name) (more ++ CodePoint.ofChar ';' :: w) =
      (references.lookup (name ++ more)).bind fun point =>
        (unescapedFrom none w).map (point :: ·) := by
  induction more generalizing name with
  | nil => rw [List.nil_append, unescapedFrom, if_pos rfl, List.append_nil]
  | cons c more ih =>
    have here : c ≠ CodePoint.ofChar ';' := fun same => h (same ▸ List.mem_cons_self)
    rw [List.cons_append, unescapedFrom, if_neg here,
      ih (fun mem => h (List.mem_cons_of_mem _ mem)), List.append_assoc, List.singleton_append]

/-- The names are told apart, and none has a semicolon. -/
theorem lookup_reference : ∀ reference ∈ references,
    references.lookup reference.1 = some reference.2 ∧ CodePoint.ofChar ';' ∉ reference.1 := by
  decide

/-- **A code point is read back** from what is written for it, whatever follows. -/
theorem unescaped_escapedPoint (c : CodePoint) (w : Words) :
    unescaped (escapedPoint c ++ w) = (unescaped w).map (c :: ·) := by
  rcases escapedPoint_cases c with ⟨reference, known, rfl, written⟩ | ⟨plain, written⟩
  · obtain ⟨found, closed⟩ := lookup_reference reference known
    rw [written, unescaped, List.cons_append, List.cons_append, unescapedFrom, if_pos rfl,
      List.append_assoc, List.singleton_append, unescapedFrom_name closed, List.nil_append, found,
      Option.bind_some, unescaped]
  · have noReference : c ≠ CodePoint.ofChar '&' := plain ("amp", '&') (by decide)
    rw [written, unescaped, List.singleton_append, unescapedFrom, if_neg noReference, unescaped]

theorem unescaped_escaped_append (v w : Words) :
    unescaped (escaped v ++ w) = (unescaped w).map (v ++ ·) := by
  induction v with
  | nil => simp [escaped]
  | cons c v ih =>
    rw [escaped_cons, List.append_assoc, unescaped_escapedPoint, ih, Option.map_map]
    rfl

/-- **A text is read back** from its escaped form. -/
theorem unescaped_escaped (w : Words) : unescaped (escaped w) = some w := by
  have := unescaped_escaped_append w []
  rwa [List.append_nil, show unescaped [] = some [] from rfl, Option.map_some,
    List.append_nil] at this

end Reading

section Ampersands

theorem referenced_of_not_mem {w : Words} (h : CodePoint.ofChar '&' ∉ w) : Referenced w := by
  rintro before after rfl
  exact absurd (by simp) h

theorem Referenced.append {v w : Words} (hv : Referenced v) (hw : Referenced w) :
    Referenced (v ++ w) := by
  intro before after same
  rcases List.append_eq_append_iff.1 same with ⟨gap, -, here⟩ | ⟨gap, here, rest⟩
  · exact hw gap after here
  · cases gap with
    | nil => exact hw [] after (by simpa using rest.symm)
    | cons c gap =>
      obtain ⟨rfl, rfl⟩ := List.cons.inj rest
      obtain ⟨reference, known, begins⟩ := hv before gap here
      exact ⟨reference, known, begins.trans (List.prefix_append gap w)⟩

theorem ampersand_not_mem_reference : ∀ reference ∈ references,
    CodePoint.ofChar '&' ∉ reference.1 ++ [CodePoint.ofChar ';'] := by
  decide

theorem referenced_escapedPoint (c : CodePoint) : Referenced (escapedPoint c) := by
  rcases escapedPoint_cases c with ⟨reference, known, -, written⟩ | ⟨plain, written⟩
  · rintro before after same
    rw [written, List.cons_append] at same
    cases before with
    | nil => exact ⟨reference, known, (List.cons.inj same).2 ▸ List.prefix_refl _⟩
    | cons d before =>
      have inside : CodePoint.ofChar '&' ∈ reference.1 ++ [CodePoint.ofChar ';'] := by
        rw [(List.cons.inj same).2]
        simp
      exact absurd inside (ampersand_not_mem_reference reference known)
  · refine written ▸ referenced_of_not_mem fun mem => ?_
    exact plain ("amp", '&') (by decide) (List.mem_singleton.1 mem).symm

/-- **Each ampersand of an escaped text begins a reference.** -/
theorem referenced_escaped (w : Words) : Referenced (escaped w) := by
  induction w with
  | nil => exact referenced_of_not_mem List.not_mem_nil
  | cons c w ih => exact escaped_cons c w ▸ (referenced_escapedPoint c).append ih

end Ampersands

theorem delimiter_not_mem_reference : ∀ reference ∈ references, ∀ c ∈ references.tail.map Prod.snd,
    c ∉ CodePoint.ofChar '&' :: reference.1 ++ [CodePoint.ofChar ';'] := by
  decide

/-- **An escaped text has no angle brackets and no quotes.** -/
theorem not_mem_escaped {c : CodePoint} (h : c ∈ references.tail.map Prod.snd) (w : Words) :
    c ∉ escaped w := by
  intro mem
  obtain ⟨d, -, inside⟩ := List.mem_flatMap.1 mem
  rcases escapedPoint_cases d with ⟨reference, known, -, written⟩ | ⟨plain, written⟩
  · exact delimiter_not_mem_reference reference known c h (written ▸ inside)
  · obtain rfl := List.mem_singleton.1 (written ▸ inside)
    obtain ⟨reference, known, rfl⟩ := List.mem_map.1 h
    exact plain reference (List.mem_of_mem_tail known) rfl

/-- Reading gives up on an unknown name and on one without an end. -/
example : unescaped (Words.ofString "&nbsp;") = none ∧ unescaped (Words.ofString "a&lt") = none ∧
    unescaped (Words.ofString "a&lt;b") = some (Words.ofString "a<b") := by
  decide

end Text
end Recital
