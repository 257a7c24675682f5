/-
# Well nested documents and what they say

`Nested path ts letters` reads tokens as the inside of the elements `path`, outermost first:
every element that is started is ended by its own tag after what it encloses, and what the
character data spells, read back from its escapes, is `letters`, each letter with all the
elements around it.

Tokens come out of a document from its front to its end, and then some elements are still
open.  `Closes path inside ts letters` says the same of the rest of a document in which
`inside` is open as well, innermost first:

| first token of the rest | open before it | open after it |
| --- | --- | --- |
| character data | `inside` | `inside` |
| start of `e` | `inside` | `e :: inside` |
| end of `e` | `e :: inside` | `inside` |

The pieces of a document can have texts side by side and texts with nothing in them.
`tokens` joins and drops these, so that it is a split of the text (`spells_tokens`); what is
said stays the same (`Closes.data`).
-/

import Recital.Proofs.Document.Token
import Recital.Proofs.Text.Escaped

namespace Recital
namespace Document

/-- What tokens say inside of some elements, each letter with all the elements around it,
outermost first, if the tokens are well nested. -/
inductive Nested : List Element → List Token → List (CodePoint × List Element) → Prop
  | nil (path : List Element) : Nested path [] []
  | data {path : List Element} {text said : Words} {ts : List Token}
      {letters : List (CodePoint × List Element)} :
      Text.unescaped text = some said → Nested path ts letters →
      Nested path (.data text :: ts) (said.map (·, path) ++ letters)
  | element {path : List Element} {e : Element} {inner ts : List Token}
      {within letters : List (CodePoint × List Element)} :
      Nested (path ++ [e]) inner within → Nested path ts letters →
      Nested path (.start e :: inner ++ .stop e.tag :: ts) (within ++ letters)

/-- The character data of a token. -/
def Token.data? : Token → Option Words
  | .data text => some text
  | .start _ | .stop _ => none

/-- What the character data of tokens spells, one after the other. -/
def unescapedData (ts : List Token) : Option Words :=
  ((ts.filterMap Token.data?).mapM Text.unescaped).map List.flatten

/-- Whether an attribute value has no delimiter and no stray ampersand. -/
def ValueClean (value : Words) : Prop :=
  CodePoint.ofChar '<' ∉ value ∧ CodePoint.ofChar '"' ∉ value ∧ Text.Referenced value

/-- Whether the character data and the values of a token have no delimiter and no stray
ampersand. -/
def Token.Clean : Token → Prop
  | .start e => ∀ a ∈ e.attributes, ValueClean a.2
  | .stop _ => True
  | .data text =>
    CodePoint.ofChar '<' ∉ text ∧ CodePoint.ofChar '>' ∉ text ∧ Text.Referenced text

theorem unescapedData_append (ts us : List Token) : unescapedData (ts ++ us) =
    (unescapedData ts).bind fun front => (unescapedData us).map (front ++ ·) := by
  simp only [unescapedData, List.filterMap_append, List.mapM_append]
  cases (ts.filterMap Token.data?).mapM Text.unescaped with
  | none => rfl
  | some front =>
    cases (us.filterMap Token.data?).mapM Text.unescaped with
    | none => rfl
    | some back => simp

/-- The letters of well nested tokens are those of their character data. -/
theorem Nested.unescapedData_eq {path : List Element} {ts : List Token}
    {letters : List (CodePoint × List Element)} (h : Nested path ts letters) :
    unescapedData ts = some (letters.map Prod.fst) := by
  induction h with
  | nil path => rfl
  | @data path text said ts letters read _ ih =>
    have here : unescapedData [.data text] = some said := by
      simp [unescapedData, Token.data?, read]
    rw [← List.singleton_append, unescapedData_append, here, ih]
    simp [Function.comp_def]
  | @element path e inner ts within letters _ _ inside after =>
    change unescapedData (inner ++ ([.stop e.tag] ++ ts)) = _
    have tag : unescapedData ([.stop e.tag] ++ ts) = unescapedData ts := rfl
    rw [unescapedData_append, tag, inside, after]
    simp

section Joining

/-- Puts character data in front of tokens, as one with the data that they begin with. -/
def glue (text : Words) : List Token → List Token
  | .data more :: ts => .data (text ++ more) :: ts
  | ts => if text = [] then ts else .data text :: ts

/-- The tokens of pieces: texts side by side are one, and a text with nothing in it is none. -/
def tokens : List Piece → List Token
  | [] => []
  | .startTag e :: ps => .start e :: tokens ps
  | .endTag tag :: ps => .stop tag :: tokens ps
  | .words text :: ps => glue (Text.escaped text) (tokens ps)

/-- Either tokens begin with character data, or some may be put before them. -/
theorem glue_cases (text : Words) (ts : List Token) :
    (∃ more rest, ts = .data more :: rest ∧ glue text ts = .data (text ++ more) :: rest) ∨
    (∀ t ∈ ts.head?, ¬t.IsData) ∧
      glue text ts = if text = [] then ts else .data text :: ts := by
  rcases ts with _ | ⟨_ | _ | more, rest⟩
  · exact .inr ⟨by simp, rfl⟩
  · exact .inr ⟨by simp [Token.IsData], rfl⟩
  · exact .inr ⟨by simp [Token.IsData], rfl⟩
  · exact .inl ⟨more, rest, rfl, rfl⟩

theorem written_glue (text : Words) (ts : List Token) :
    (glue text ts).flatMap Token.written = text ++ ts.flatMap Token.written := by
  rcases glue_cases text ts with ⟨more, rest, rfl, glued⟩ | ⟨-, glued⟩
  · rw [glued, List.flatMap_cons, List.flatMap_cons, Token.written, Token.written,
      List.append_assoc]
  · rw [glued]
    split
    · rename_i empty
      rw [empty, List.nil_append]
    · rw [List.flatMap_cons, Token.written]

/-- Joining leaves nothing out. -/
theorem written_tokens (ps : List Piece) :
    (tokens ps).flatMap Token.written = ps.flatMap Piece.written := by
  induction ps with
  | nil => rfl
  | cons p ps ih =>
    cases p with
    | startTag e => rw [tokens, List.flatMap_cons, ih, List.flatMap_cons, Token.written]
    | endTag tag => rw [tokens, List.flatMap_cons, ih, List.flatMap_cons, Token.written]
    | words text => rw [tokens, written_glue, ih, List.flatMap_cons, Piece.written]

/-- Joined data lies between tags. -/
theorem maximal_glue (text : Words) {ts : List Token}
    (h : ts.IsChain fun t u => ¬(t.IsData ∧ u.IsData)) :
    (glue text ts).IsChain fun t u => ¬(t.IsData ∧ u.IsData) := by
  rcases glue_cases text ts with ⟨more, rest, rfl, glued⟩ | ⟨tag, glued⟩
  · rw [glued, List.isChain_cons]
    exact List.isChain_cons.1 h
  · rw [glued]
    split
    · exact h
    · exact List.isChain_cons.2 ⟨fun u mem both => tag u mem both.2, h⟩

theorem maximal_cons_tag {t : Token} (tag : ¬t.IsData) {ts : List Token}
    (h : ts.IsChain fun t u => ¬(t.IsData ∧ u.IsData)) :
    (t :: ts).IsChain fun t u => ¬(t.IsData ∧ u.IsData) :=
  List.isChain_cons.2 ⟨fun _ _ both => tag both.1, h⟩

theorem maximal_tokens (ps : List Piece) :
    (tokens ps).IsChain fun t u => ¬(t.IsData ∧ u.IsData) := by
  induction ps with
  | nil => exact List.isChain_nil
  | cons p ps ih =>
    cases p with
    | startTag e => exact maximal_cons_tag id ih
    | endTag tag => exact maximal_cons_tag id ih
    | words text => exact maximal_glue _ ih

/-- What holds of each tag, and of data that was escaped and of data that is joined, holds of
each token. -/
theorem forall_mem_tokens {P : Token → Prop} {ps : List Piece}
    (starts : ∀ e, .startTag e ∈ ps → P (.start e))
    (stops : ∀ tag, .endTag tag ∈ ps → P (.stop tag))
    (escaped : ∀ text, Text.escaped text ≠ [] → P (.data (Text.escaped text)))
    (joined : ∀ text more, P (.data more) → P (.data (Text.escaped text ++ more))) :
    ∀ t ∈ tokens ps, P t := by
  induction ps with
  | nil => exact List.forall_mem_nil _
  | cons p ps ih =>
    have later := ih (fun e mem => starts e (List.mem_cons_of_mem _ mem))
      fun tag mem => stops tag (List.mem_cons_of_mem _ mem)
    cases p with
    | startTag e => exact List.forall_mem_cons.2 ⟨starts e List.mem_cons_self, later⟩
    | endTag tag => exact List.forall_mem_cons.2 ⟨stops tag List.mem_cons_self, later⟩
    | words text =>
      rw [tokens]
      rcases glue_cases (Text.escaped text) (tokens ps) with ⟨more, rest, data, glued⟩ | ⟨-, glued⟩
      · rw [data] at later
        obtain ⟨first, rest⟩ := List.forall_mem_cons.1 later
        exact glued ▸ List.forall_mem_cons.2 ⟨joined text more first, rest⟩
      · rw [glued]
        split
        · exact later
        · exact List.forall_mem_cons.2 ⟨escaped text ‹_›, later⟩

/-- **The tokens of pieces are a split of their text.** -/
theorem spells_tokens {ps : List Piece} (starts : ∀ e, .startTag e ∈ ps → ElementWellFormed e)
    (stops : ∀ tag, .endTag tag ∈ ps → IsName tag) :
    Spells (tokens ps) (ps.flatMap Piece.written) where
  written := written_tokens ps
  wellFormed := by
    have bracket := fun text => Text.not_mem_escaped (c := '<') (by decide) text
    refine forall_mem_tokens starts stops (fun text something => ⟨something, bracket text⟩) ?_
    rintro text more ⟨something, without⟩
    exact ⟨List.append_ne_nil_of_right_ne_nil _ something, by simp [bracket text, without]⟩
  maximal := maximal_tokens ps

/-- The tokens of pieces are clean if their tags are. -/
theorem clean_tokens {ps : List Piece} (starts : ∀ e, .startTag e ∈ ps → (Token.start e).Clean) :
    ∀ t ∈ tokens ps, t.Clean := by
  have left := fun text => Text.not_mem_escaped (c := '<') (by decide) text
  have right := fun text => Text.not_mem_escaped (c := '>') (by decide) text
  refine forall_mem_tokens starts (fun _ _ => trivial)
    (fun text _ => ⟨left text, right text, Text.referenced_escaped text⟩) ?_
  rintro text more ⟨noLeft, noRight, referenced⟩
  exact ⟨by simp [left text, noLeft], by simp [right text, noRight],
    (Text.referenced_escaped text).append referenced⟩

theorem glue_before_stop (text : Words) (inner : List Token) (tag : String) (after : List Token) :
    glue text (inner ++ .stop tag :: after) = glue text inner ++ .stop tag :: after := by
  rcases inner with _ | ⟨_ | _ | _, inner⟩ <;> simp only [glue, List.nil_append, List.cons_append]
  all_goals split <;> rfl

/-- Data in front of well nested tokens is said first. -/
theorem Nested.prepend {path : List Element} {ts : List Token}
    {letters : List (CodePoint × List Element)} (h : Nested path ts letters) (text : Words) :
    Nested path (glue (Text.escaped text) ts) (text.map (·, path) ++ letters) := by
  rcases glue_cases (Text.escaped text) ts with ⟨more, rest, rfl, glued⟩ | ⟨-, glued⟩
  · rw [glued]
    cases h with
    | data read after =>
      rw [← List.append_assoc, ← List.map_append]
      exact .data (by rw [Text.unescaped_escaped_append, read, Option.map_some]) after
  · rw [glued]
    split
    · -- Only a text with nothing in it has nothing written for it.
      rename_i empty
      have read := Text.unescaped_escaped text
      rw [empty] at read
      obtain rfl : [] = text := Option.some.inj read
      exact h
    · exact .data (Text.unescaped_escaped text) h

end Joining

section Closing

/-- What tokens say inside of some elements where others are open in these, innermost first,
if the tokens are well nested and end what is open. -/
def Closes (path : List Element) :
    List Element → List Token → List (CodePoint × List Element) → Prop
  | [], ts, letters => Nested path ts letters
  | e :: around, ts, letters => ∃ inner after within later,
    ts = inner ++ .stop e.tag :: after ∧ letters = within ++ later ∧
      Nested (path ++ (e :: around).reverse) inner within ∧ Closes path around after later

variable {path inside : List Element} {ts : List Token}
  {letters : List (CodePoint × List Element)}

/-- What can be put in front of tokens of the innermost element can be put in front of all. -/
theorem Closes.inFront {f : List Token → List Token} {said : List (CodePoint × List Element)}
    (h : Closes path inside ts letters)
    (stops : ∀ inner tag after, f (inner ++ .stop tag :: after) = f inner ++ .stop tag :: after)
    (nested : ∀ {ts letters}, Nested (path ++ inside.reverse) ts letters →
      Nested (path ++ inside.reverse) (f ts) (said ++ letters)) :
    Closes path inside (f ts) (said ++ letters) := by
  cases inside with
  | nil =>
    rw [List.reverse_nil, List.append_nil] at nested
    exact nested h
  | cons e around =>
    obtain ⟨inner, after, within, later, rfl, rfl, enclosed, rest⟩ := h
    exact ⟨f inner, after, said ++ within, later, stops _ _ _, (List.append_assoc ..).symm,
      nested enclosed, rest⟩

/-- **Character data** is said inside of all that is open. -/
theorem Closes.data (h : Closes path inside ts letters) (text : Words) :
    Closes path inside (glue (Text.escaped text) ts)
      (text.map (·, path ++ inside.reverse) ++ letters) :=
  h.inFront (glue_before_stop _) fun nested => nested.prepend text

/-- **An element is ended by its own tag.** -/
theorem Closes.stop (h : Closes path inside ts letters) (e : Element) :
    Closes path (e :: inside) (.stop e.tag :: ts) letters :=
  ⟨[], ts, [], letters, rfl, rfl, .nil _, h⟩

/-- **A started element** is the innermost one up to its end. -/
theorem Closes.start {e : Element} (h : Closes path (e :: inside) ts letters) :
    Closes path inside (.start e :: ts) letters := by
  obtain ⟨inner, after, within, later, rfl, rfl, enclosed, rest⟩ := h
  rw [List.reverse_cons, ← List.append_assoc] at enclosed
  refine rest.inFront (f := fun ts => .start e :: inner ++ .stop e.tag :: ts) ?_ fun nested =>
    .element enclosed nested
  intro _ _ _
  simp

/-- Elements are started outermost first. -/
theorem Closes.starts {es : List Element} (h : Closes path (es.reverse ++ inside) ts letters) :
    Closes path inside (es.map .start ++ ts) letters := by
  induction es generalizing inside with
  | nil => exact h
  | cons e es ih =>
    rw [List.reverse_cons, List.append_assoc, List.singleton_append] at h
    exact (ih h).start

/-- Elements are ended innermost first. -/
theorem Closes.stops (h : Closes path inside ts letters) (es : List Element) :
    Closes path (es ++ inside) (es.map (fun e => .stop e.tag) ++ ts) letters := by
  induction es with
  | nil => exact h
  | cons e es ih => exact ih.stop e

end Closing
end Document
end Recital
