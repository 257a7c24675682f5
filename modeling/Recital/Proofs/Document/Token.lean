/-
# A document as tags and character data

The text of a document is a sequence of tags with character data between them.  A split of
a text into such tokens leaves nothing out, takes character data as a whole, and asks of the
tokens no more than what tells them apart:

| token | written | what is asked |
| --- | --- | --- |
| start of an element | `<tag name="value" …>` | names are names, no `<` and no `"` in a value |
| end of an element | `</tag>` | the tag is a name |
| character data | as it is | at least one character, no `<` |

That is enough for a text to have one split at most (`Spells.unique`).  The first tokens of
two splits are told apart by the character after `<`; they then agree up to the character
that ends a name or a value, since it cannot be part of what it ends (`prefix_unique`), and
character data ends where a tag begins.
-/

import Recital.Segment.Ssml
import Mathlib.Data.List.Chain

namespace Recital

/-- Texts with the same words are the same. -/
theorem Words.ofString_injective : Function.Injective Words.ofString :=
  Function.LeftInverse.injective Words.readable_ofString

namespace Document

/-- A token of the text of a document.  Character data is kept as it is written. -/
inductive Token where
  | start (element : Element)
  | stop (tag : String)
  | data (text : Words)

/-- The text of a token. -/
def Token.written : Token → Words
  | .start e => (Piece.startTag e).written
  | .stop tag => (Piece.endTag tag).written
  | .data text => text

/-- Whether a token is character data. -/
def Token.IsData : Token → Prop
  | .data _ => True
  | .start _ | .stop _ => False

/-- What has a meaning of its own in a tag or begins a reference.  It can stand after a name
but not in one. -/
def reserved : List CodePoint := [' ', '=', '"', '<', '>', '/', '&']

/-- Whether a text can be the name of an element or of an attribute. -/
def IsName (name : String) : Prop := name ≠ "" ∧ ∀ c ∈ (name : Words), c ∉ reserved

instance (name : String) : Decidable (IsName name) := inferInstanceAs (Decidable (_ ∧ _))

/-- Whether the parts of a start tag can be told apart. -/
structure ElementWellFormed (e : Element) : Prop where
  tag : IsName e.tag
  names : ∀ a ∈ e.attributes, IsName a.1
  values : ∀ a ∈ e.attributes, CodePoint.ofChar '<' ∉ a.2 ∧ CodePoint.ofChar '"' ∉ a.2

/-- Whether a token can be told apart from what is around it. -/
def Token.WellFormed : Token → Prop
  | .start e => ElementWellFormed e
  | .stop tag => IsName tag
  | .data text => text ≠ [] ∧ CodePoint.ofChar '<' ∉ text

/-- Whether tokens are a split of a text into tags and character data. -/
structure Spells (ts : List Token) (text : Words) : Prop where
  written : ts.flatMap Token.written = text
  wellFormed : ∀ t ∈ ts, t.WellFormed
  maximal : ts.IsChain fun t u => ¬(t.IsData ∧ u.IsData)

section Written

/-- The text of an attribute. -/
def attributeWritten (a : String × Words) : Words :=
  CodePoint.ofChar ' ' :: ((a.1 : Words) ++
    CodePoint.ofChar '=' :: CodePoint.ofChar '"' :: (a.2 ++ [CodePoint.ofChar '"']))

theorem written_start (e : Element) : (Token.start e).written =
    CodePoint.ofChar '<' ::
      ((e.tag : Words) ++ (e.attributes.flatMap attributeWritten ++ [CodePoint.ofChar '>'])) := by
  simp only [Token.written, Piece.written, List.append_assoc, List.flatMap_def]
  rfl

theorem written_stop (tag : String) : (Token.stop tag).written =
    CodePoint.ofChar '<' :: CodePoint.ofChar '/' :: ((tag : Words) ++ [CodePoint.ofChar '>']) := by
  simp only [Token.written, Piece.written, List.append_assoc]
  rfl

theorem written_ne_nil {t : Token} (h : t.WellFormed) : t.written ≠ [] := by
  cases t with
  | start e => simp [written_start]
  | stop tag => simp [written_stop]
  | data text => exact h.1

/-- What is not character data begins with an angle bracket. -/
theorem head_written {t : Token} (h : ¬t.IsData) :
    t.written.head? = some (CodePoint.ofChar '<') := by
  cases t with
  | start e => rw [written_start, List.head?_cons]
  | stop tag => rw [written_stop, List.head?_cons]
  | data text => exact absurd trivial h

end Written

section Cancelling

/-- **What reaches up to the first character of another kind is read in one way.** -/
theorem prefix_unique {P : CodePoint → Prop} {a b r s : Words} (ha : ∀ c ∈ a, P c)
    (hb : ∀ c ∈ b, P c) (hr : ∀ c ∈ r.head?, ¬P c) (hs : ∀ c ∈ s.head?, ¬P c)
    (same : a ++ r = b ++ s) : a = b ∧ r = s := by
  induction a generalizing b with
  | nil =>
    cases b with
    | nil => exact ⟨rfl, same⟩
    | cons c b =>
      have first : c ∈ r.head? := by rw [show r = c :: (b ++ s) from same]; rfl
      exact absurd (hb c List.mem_cons_self) (hr c first)
  | cons c a ih =>
    cases b with
    | nil =>
      have first : c ∈ s.head? := by rw [show s = c :: (a ++ r) from same.symm]; rfl
      exact absurd (ha c List.mem_cons_self) (hs c first)
    | cons d b =>
      obtain ⟨rfl, rest⟩ := List.cons.inj same
      obtain ⟨rfl, rfl⟩ := ih (fun c mem => ha c (List.mem_cons_of_mem _ mem))
        (fun c mem => hb c (List.mem_cons_of_mem _ mem)) rest
      exact ⟨rfl, rfl⟩

/-- A name is read in one way up to what cannot be part of it. -/
theorem name_unique {name other : String} {r s : Words} (hn : IsName name) (ho : IsName other)
    (hr : ∀ c ∈ r.head?, c ∈ reserved) (hs : ∀ c ∈ s.head?, c ∈ reserved)
    (same : (name : Words) ++ r = other ++ s) : name = other ∧ r = s := by
  obtain ⟨names, rests⟩ := prefix_unique hn.2 ho.2 (fun c mem => not_not_intro (hr c mem))
    (fun c mem => not_not_intro (hs c mem)) same
  exact ⟨Words.ofString_injective names, rests⟩

/-- A value is read in one way up to the quote that ends it. -/
theorem value_unique {value other r s : Words} (hv : CodePoint.ofChar '"' ∉ value)
    (ho : CodePoint.ofChar '"' ∉ other)
    (same : value ++ CodePoint.ofChar '"' :: r = other ++ CodePoint.ofChar '"' :: s) :
    value = other ∧ r = s := by
  obtain ⟨values, rests⟩ := prefix_unique (P := fun c => c ≠ CodePoint.ofChar '"')
    (fun c mem here => hv (here ▸ mem)) (fun c mem here => ho (here ▸ mem)) (by simp) (by simp) same
  exact ⟨values, (List.cons.inj rests).2⟩

/-- What follows the tag of an element cannot be part of it. -/
theorem reserved_of_attributes (attributes : List (String × Words)) (r : Words) :
    ∀ c ∈ (attributes.flatMap attributeWritten ++ CodePoint.ofChar '>' :: r).head?,
      c ∈ reserved := by
  intro c mem
  cases attributes with
  | nil =>
    obtain rfl : CodePoint.ofChar '>' = c := Option.some.inj mem
    decide
  | cons a attributes =>
    obtain rfl : CodePoint.ofChar ' ' = c := Option.some.inj mem
    decide

/-- Attributes up to the end of their tag are read in one way. -/
theorem attributes_unique {as bs : List (String × Words)} {r s : Words}
    (ha : ∀ a ∈ as, IsName a.1 ∧ CodePoint.ofChar '"' ∉ a.2)
    (hb : ∀ b ∈ bs, IsName b.1 ∧ CodePoint.ofChar '"' ∉ b.2)
    (same : as.flatMap attributeWritten ++ CodePoint.ofChar '>' :: r =
      bs.flatMap attributeWritten ++ CodePoint.ofChar '>' :: s) : as = bs ∧ r = s := by
  have apart : CodePoint.ofChar '>' ≠ CodePoint.ofChar ' ' := by decide
  induction as generalizing bs with
  | nil =>
    cases bs with
    | nil => exact ⟨rfl, (List.cons.inj same).2⟩
    | cons b bs => exact absurd (List.cons.inj same).1 apart
  | cons a as ih =>
    cases bs with
    | nil => exact absurd (List.cons.inj same).1.symm apart
    | cons b bs =>
      obtain ⟨name, value⟩ := a
      obtain ⟨name', value'⟩ := b
      obtain ⟨⟨nameOk, valueOk⟩, asOk⟩ := List.forall_mem_cons.1 ha
      obtain ⟨⟨nameOk', valueOk'⟩, bsOk⟩ := List.forall_mem_cons.1 hb
      dsimp only at nameOk valueOk nameOk' valueOk'
      simp only [List.flatMap_cons, attributeWritten, List.cons_append, List.append_assoc,
        List.nil_append, List.cons.injEq, true_and] at same
      obtain ⟨rfl, values⟩ := name_unique nameOk nameOk' (by simp [reserved])
        (by simp [reserved]) same
      simp only [List.cons.injEq, true_and] at values
      obtain ⟨rfl, rest⟩ := value_unique valueOk valueOk' values
      obtain ⟨rfl, rfl⟩ := ih asOk bsOk rest
      exact ⟨rfl, rfl⟩

/-- No name begins with a slash. -/
theorem name_ne_slash {name : String} (h : IsName name) (r s : Words) :
    (name : Words) ++ r ≠ CodePoint.ofChar '/' :: s := by
  intro same
  cases written : (name : Words) with
  | nil => exact h.1 (Words.ofString_injective written)
  | cons c rest =>
    rw [written] at same
    obtain rfl := (List.cons.inj same).1
    exact h.2 _ (written ▸ List.mem_cons_self) (by decide)

/-- Character data does not begin as a tag does. -/
theorem data_ne_tag {text : Words} (h : (Token.data text).WellFormed) (r s : Words) :
    text ++ r ≠ CodePoint.ofChar '<' :: s := by
  intro same
  cases text with
  | nil => exact h.1 rfl
  | cons c text => exact h.2 ((List.cons.inj same).1 ▸ List.mem_cons_self)

/-- **The first token of a text is read in one way,** if a tag follows character data. -/
theorem written_unique {t u : Token} {r s : Words} (ht : t.WellFormed) (hu : u.WellFormed)
    (hr : t.IsData → ∀ c ∈ r.head?, c = CodePoint.ofChar '<')
    (hs : u.IsData → ∀ c ∈ s.head?, c = CodePoint.ofChar '<')
    (same : t.written ++ r = u.written ++ s) : t = u ∧ r = s := by
  cases t with
  | start e =>
    cases u with
    | start f =>
      simp only [written_start, List.cons_append, List.append_assoc, List.nil_append] at same
      obtain ⟨tags, rest⟩ := name_unique ht.tag hu.tag (reserved_of_attributes _ _)
        (reserved_of_attributes _ _) (List.cons.inj same).2
      obtain ⟨attributes, rfl⟩ := attributes_unique
        (fun a mem => ⟨ht.names a mem, (ht.values a mem).2⟩)
        (fun a mem => ⟨hu.names a mem, (hu.values a mem).2⟩) rest
      cases e
      cases f
      cases tags
      cases attributes
      exact ⟨rfl, rfl⟩
    | stop tag =>
      -- The character after the bracket tells a start from an end.
      simp only [written_start, written_stop, List.cons_append, List.append_assoc] at same
      exact absurd (List.cons.inj same).2 (name_ne_slash ht.tag _ _)
    | data text =>
      rw [written_start] at same
      exact absurd same.symm (data_ne_tag hu _ _)
  | stop tag =>
    cases u with
    | start f =>
      simp only [written_start, written_stop, List.cons_append, List.append_assoc] at same
      exact absurd (List.cons.inj same).2.symm (name_ne_slash hu.tag _ _)
    | stop other =>
      simp only [written_stop, List.cons_append, List.append_assoc, List.nil_append,
        List.cons.injEq, true_and] at same
      obtain ⟨rfl, rest⟩ := name_unique ht hu (by simp [reserved]) (by simp [reserved]) same
      exact ⟨rfl, (List.cons.inj rest).2⟩
    | data text =>
      rw [written_stop] at same
      exact absurd same.symm (data_ne_tag hu _ _)
  | data text =>
    cases u with
    | start f =>
      rw [written_start] at same
      exact absurd same (data_ne_tag ht _ _)
    | stop other =>
      rw [written_stop] at same
      exact absurd same (data_ne_tag ht _ _)
    | data other =>
      obtain ⟨rfl, rest⟩ := prefix_unique (P := fun c => c ≠ CodePoint.ofChar '<')
        (fun c mem here => ht.2 (here ▸ mem)) (fun c mem here => hu.2 (here ▸ mem))
        (fun c mem => not_not_intro (hr trivial c mem))
        (fun c mem => not_not_intro (hs trivial c mem)) same
      exact ⟨rfl, rest⟩

end Cancelling

/-- After character data a tag follows, if anything does. -/
theorem head_after_data {t : Token} {ts : List Token} {text : Words}
    (h : Spells (t :: ts) text) (data : t.IsData) :
    ∀ c ∈ (ts.flatMap Token.written).head?, c = CodePoint.ofChar '<' := by
  intro c mem
  cases ts with
  | nil => cases mem
  | cons u ts =>
    have tag : ¬u.IsData := fun also =>
      (List.isChain_cons_cons.1 h.maximal).1 ⟨data, also⟩
    rw [List.flatMap_cons, List.head?_append, head_written tag] at mem
    exact (Option.some.inj mem).symm

theorem Spells.tail {t : Token} {ts : List Token} {text : Words} (h : Spells (t :: ts) text) :
    Spells ts (ts.flatMap Token.written) where
  written := rfl
  wellFormed := fun u mem => h.wellFormed u (List.mem_cons_of_mem _ mem)
  maximal := h.maximal.tail

/-- **A text has one split at most.** -/
theorem Spells.unique {ts us : List Token} {text : Words} (h : Spells ts text)
    (h' : Spells us text) : ts = us := by
  induction ts generalizing us text with
  | nil =>
    cases us with
    | nil => rfl
    | cons u us =>
      obtain ⟨empty, -⟩ := List.append_eq_nil_iff.1 (h'.written.trans h.written.symm)
      exact absurd empty (written_ne_nil (h'.wellFormed u List.mem_cons_self))
  | cons t ts ih =>
    cases us with
    | nil =>
      obtain ⟨empty, -⟩ := List.append_eq_nil_iff.1 (h.written.trans h'.written.symm)
      exact absurd empty (written_ne_nil (h.wellFormed t List.mem_cons_self))
    | cons u us =>
      obtain ⟨rfl, rest⟩ := written_unique (h.wellFormed t List.mem_cons_self)
        (h'.wellFormed u List.mem_cons_self) (head_after_data h) (head_after_data h')
        (h.written.trans h'.written.symm)
      exact congrArg (t :: ·) (ih h.tail (rest ▸ h'.tail))

end Document
end Recital
