/-
# What the document of a segment says

A segment is written event by event, and a document is read tag by tag.  The two fit:

| event | tokens | open elements |
| --- | --- | --- |
| opening a scope | starts of its elements, outermost first | these are added |
| text | character data, joined with what is beside it | as they are |
| closing a scope | ends of its elements, innermost first | these are gone |

A scope has no element, one or two, depending on what it sets.  Since a segment closes each
scope by what mirrors its opening, the elements that are open are at each event those of the
open scopes (`closes_tokens`), however many these are; and what the document says inside of
them are the texts, each letter within the elements of the scopes around it.
-/

import Recital.Proofs.Compilation
import Recital.Proofs.Document.Nested

namespace Recital

/-- The elements of a scope, outermost first; none where it cannot be written. -/
def Scope.rendering (s : Scope) : List Element :=
  match s.elements with
  | .ok elements => elements
  | .error _ => []

theorem Scope.rendering_eq {s : Scope} {elements : List Element} (ok : s.elements = .ok elements) :
    s.rendering = elements := by
  rw [rendering, ok]

/-- The elements of scopes that are given innermost first, outermost first. -/
def Scope.path (scopes : List Scope) : List Element := scopes.reverse.flatMap rendering

theorem Scope.reverse_path_cons (s : Scope) (scopes : List Scope) :
    (path (s :: scopes)).reverse = s.rendering.reverse ++ (path scopes).reverse := by
  simp [path]

namespace Event

/-- What events say.  A space keeps a text apart from one directly before it, which `spaced`
says there is before the first event. -/
def spoken (spaced : Bool) : List Event → Words
  | [] => []
  | .text words :: es => (if spaced then (" " : Words) else []) ++ words ++ spoken true es
  | .opening _ :: es => spoken false es
  | .closing _ :: es => spoken false es

/-- What events say letter by letter, each with the scopes around it, innermost first. -/
def letters (spaced : Bool) (scopes : List Scope) : List Event → List (CodePoint × List Scope)
  | [] => []
  | .text words :: es =>
    ((if spaced then (" " : Words) else []) ++ words).map (·, scopes) ++ letters true scopes es
  | .opening s :: es => letters false (s :: scopes) es
  | .closing _ :: es => letters false scopes.tail es

theorem letters_eq_spoken (spaced : Bool) (scopes : List Scope) (es : List Event) :
    (letters spaced scopes es).map Prod.fst = spoken spaced es := by
  induction es generalizing spaced scopes with
  | nil => rfl
  | cons e es ih =>
    cases e with
    | text words => simp [letters, spoken, ih, Function.comp_def]
    | opening s => exact ih _ _
    | closing s => exact ih _ _

end Event

namespace Document

section Elements

theorem valueClean_of_plain {value : Words}
    (plain : ∀ c ∈ [CodePoint.ofChar '<', CodePoint.ofChar '"', CodePoint.ofChar '&'], c ∉ value) :
    ValueClean value :=
  ⟨plain _ (by decide), plain _ (by decide), Text.referenced_of_not_mem (plain _ (by decide))⟩

theorem valueClean_escaped (w : Words) : ValueClean (Text.escaped w) :=
  ⟨Text.not_mem_escaped (by decide) w, Text.not_mem_escaped (by decide) w,
    Text.referenced_escaped w⟩

/-- Whether an element has names where names belong and clean values. -/
structure ElementSound (e : Element) : Prop where
  tag : IsName e.tag
  attributes : ∀ a ∈ e.attributes, IsName a.1 ∧ ValueClean a.2

theorem ElementSound.wellFormed {e : Element} (h : ElementSound e) : ElementWellFormed e where
  tag := h.tag
  names := fun a mem => (h.attributes a mem).1
  values := fun a mem => ⟨(h.attributes a mem).2.1, (h.attributes a mem).2.2.1⟩

theorem ElementSound.clean {e : Element} (h : ElementSound e) : (Token.start e).Clean :=
  fun a mem => (h.attributes a mem).2

/-- The words of a table of levels need no escapes. -/
theorem valueClean_of_table : ∀ table ∈ [rateWords, volumeWords, emphasisWords],
    ∀ word ∈ table, ValueClean (word : Words) := by
  have plain : ∀ table ∈ [rateWords, volumeWords, emphasisWords], ∀ word ∈ table,
      ∀ c ∈ [CodePoint.ofChar '<', CodePoint.ofChar '"', CodePoint.ofChar '&'],
        c ∉ (word : Words) := by
    decide
  exact fun table known word mem => valueClean_of_plain (plain table known word mem)

theorem attribute_of_level {name : String} {table : List String} {level : Int}
    {written : List (String × Words)} (isName : IsName name)
    (known : table ∈ [rateWords, volumeWords, emphasisWords])
    (ok : levelAttribute name table level = .ok written) :
    ∀ a ∈ written, IsName a.1 ∧ ValueClean a.2 := by
  rw [levelAttribute] at ok
  split at ok
  · obtain rfl := Except.ok.inj ok
    exact List.forall_mem_nil _
  · obtain ⟨word, found, same⟩ := Except.bind_eq_ok.1 ok
    obtain rfl := Except.ok.inj same
    rw [wordOf] at found
    split at found
    · rename_i entry
      obtain rfl := Except.ok.inj found
      split at entry
      · cases entry
      · exact List.forall_mem_singleton.2
          ⟨isName, valueClean_of_table table known _ (List.mem_of_getElem? entry)⟩
    · cases found

/-- **The elements of a scope** have names where names belong and clean values, whatever the
id of its voice and the levels of its style are. -/
theorem elementSound_of_scope {s : Scope} {elements : List Element}
    (ok : s.elements = .ok elements) : ∀ e ∈ elements, ElementSound e := by
  cases s with
  | voice voice =>
    cases voice with
    | none => cases ok
    | some v =>
      obtain rfl := Except.ok.inj ok
      exact List.forall_mem_singleton.2 ⟨(show IsName "voice" by decide),
        List.forall_mem_singleton.2 ⟨(show IsName "name" by decide), valueClean_escaped _⟩⟩
  | style s =>
    obtain ⟨rate, rateOk, ok⟩ := Except.bind_eq_ok.1 ok
    obtain ⟨volume, volumeOk, ok⟩ := Except.bind_eq_ok.1 ok
    obtain ⟨emphasis, emphasisOk, ok⟩ := Except.bind_eq_ok.1 ok
    obtain rfl := Except.ok.inj ok
    have prosody := List.forall_mem_append.2
      ⟨attribute_of_level (by decide) (by decide) rateOk,
        attribute_of_level (by decide) (by decide) volumeOk⟩
    have stress := attribute_of_level (by decide) (by decide) emphasisOk
    refine List.forall_mem_append.2 ⟨?_, ?_⟩
    · split
      · exact List.forall_mem_nil _
      · exact List.forall_mem_singleton.2 ⟨(show IsName "prosody" by decide), prosody⟩
    · split
      · exact List.forall_mem_nil _
      · exact List.forall_mem_singleton.2 ⟨(show IsName "emphasis" by decide), stress⟩
  | sentence =>
    obtain rfl := Except.ok.inj ok
    exact List.forall_mem_singleton.2 ⟨by decide, List.forall_mem_nil _⟩
  | paragraph =>
    obtain rfl := Except.ok.inj ok
    exact List.forall_mem_singleton.2 ⟨by decide, List.forall_mem_nil _⟩

/-- The element around a document in the language of documents. -/
def root : Element := Segment.speak Segment.language

theorem elementSound_root : ElementSound root := by
  have plain : ∀ a ∈ root.attributes, IsName a.1 ∧
      ∀ c ∈ [CodePoint.ofChar '<', CodePoint.ofChar '"', CodePoint.ofChar '&'], c ∉ a.2 := by
    decide
  exact ⟨by decide, fun a mem => ⟨(plain a mem).1, valueClean_of_plain (plain a mem).2⟩⟩

end Elements

section Writing

/-- Whether the tags of a piece are those of sound elements. -/
def PieceSound : Piece → Prop
  | .startTag e => ElementSound e
  | .endTag tag => IsName tag
  | .words _ => True

theorem piecesFrom_cons_eq_ok {spaced : Bool} {e : Event} {es : List Event} {pieces : List Piece}
    (ok : Segment.piecesFrom spaced (e :: es) = .ok pieces) :
    ∃ first rest, Segment.eventPieces spaced e = .ok first ∧
      Segment.piecesFrom e.words?.isSome es = .ok rest ∧ pieces = first ++ rest := by
  obtain ⟨first, here, ok⟩ := Except.bind_eq_ok.1 ok
  obtain ⟨rest, later, same⟩ := Except.bind_eq_ok.1 ok
  exact ⟨first, rest, here, later, (Except.ok.inj same).symm⟩

theorem eventPieces_opening {spaced : Bool} {s : Scope} {first : List Piece}
    (ok : Segment.eventPieces spaced (.opening s) = .ok first) :
    s.elements = .ok s.rendering ∧ first = s.rendering.map .startTag := by
  obtain ⟨elements, written, same⟩ := Except.bind_eq_ok.1 ok
  rw [Scope.rendering_eq written]
  exact ⟨written, (Except.ok.inj same).symm⟩

theorem eventPieces_closing {spaced : Bool} {s : Scope} {first : List Piece}
    (ok : Segment.eventPieces spaced (.closing s) = .ok first) :
    s.elements = .ok s.rendering ∧
      first = s.rendering.reverse.map fun e => .endTag e.tag := by
  obtain ⟨elements, written, same⟩ := Except.bind_eq_ok.1 ok
  rw [Scope.rendering_eq written]
  exact ⟨written, (Except.ok.inj same).symm⟩

theorem pieceSound_of_event {spaced : Bool} {e : Event} {first : List Piece}
    (ok : Segment.eventPieces spaced e = .ok first) : ∀ p ∈ first, PieceSound p := by
  cases e with
  | text words =>
    obtain rfl := Except.ok.inj ok
    split <;> simp [PieceSound]
  | opening s =>
    obtain ⟨written, rfl⟩ := eventPieces_opening ok
    intro p mem
    obtain ⟨e, known, rfl⟩ := List.mem_map.1 mem
    exact elementSound_of_scope written e known
  | closing s =>
    obtain ⟨written, rfl⟩ := eventPieces_closing ok
    intro p mem
    obtain ⟨e, known, rfl⟩ := List.mem_map.1 mem
    exact (elementSound_of_scope written e (List.mem_reverse.1 known)).tag

theorem pieceSound_of_piecesFrom {spaced : Bool} {es : List Event} {pieces : List Piece}
    (ok : Segment.piecesFrom spaced es = .ok pieces) : ∀ p ∈ pieces, PieceSound p := by
  induction es generalizing spaced pieces with
  | nil =>
    obtain rfl := Except.ok.inj ok
    exact List.forall_mem_nil _
  | cons e es ih =>
    obtain ⟨first, rest, here, later, rfl⟩ := piecesFrom_cons_eq_ok ok
    exact List.forall_mem_append.2 ⟨pieceSound_of_event here, ih later⟩

theorem tokens_starts (es : List Element) (ps : List Piece) :
    tokens (es.map .startTag ++ ps) = es.map .start ++ tokens ps := by
  induction es with
  | nil => rfl
  | cons e es ih => exact congrArg (Token.start e :: ·) ih

theorem tokens_stops (es : List Element) (ps : List Piece) :
    tokens (es.map (fun e => .endTag e.tag) ++ ps) =
      es.map (fun e => .stop e.tag) ++ tokens ps := by
  induction es with
  | nil => rfl
  | cons e es ih => exact congrArg (Token.stop e.tag :: ·) ih

/-- The letters of events, with the elements of the scopes around them. -/
def lettersIn (path : List Element) (letters : List (CodePoint × List Scope)) :
    List (CodePoint × List Element) :=
  letters.map fun letter => (letter.1, path ++ Scope.path letter.2)

/-- A text is said within the elements of the open scopes. -/
theorem Closes.say {path : List Element} {scopes : List Scope} {ts : List Token}
    {later : List (CodePoint × List Scope)}
    (h : Closes path (Scope.path scopes).reverse ts (lettersIn path later)) (text : Words) :
    Closes path (Scope.path scopes).reverse (glue (Text.escaped text) ts)
      (lettersIn path (text.map (·, scopes) ++ later)) := by
  have said := h.data text
  rw [List.reverse_reverse] at said
  simpa [lettersIn, Function.comp_def] using said

/-- **The tokens of events close the elements of the scopes that the events close,** and what
they say are the letters of the events.  The induction is on the events; the elements that are
open are those of the open scopes. -/
theorem closes_tokens {path : List Element} {scopes : List Scope} {es : List Event}
    {spaced : Bool} {pieces : List Piece} (order : Event.replay scopes es = some [])
    (ok : Segment.piecesFrom spaced es = .ok pieces) :
    Closes path (Scope.path scopes).reverse (tokens pieces)
      (lettersIn path (Event.letters spaced scopes es)) := by
  induction es generalizing scopes spaced pieces with
  | nil =>
    obtain rfl := Option.some.inj order
    obtain rfl := Except.ok.inj ok
    exact .nil path
  | cons e es ih =>
    rw [Event.replay_cons] at order
    obtain ⟨next, step, ordered⟩ := Option.bind_eq_some_iff.1 order
    obtain ⟨first, rest, here, later, rfl⟩ := piecesFrom_cons_eq_ok ok
    cases e with
    | text words =>
      obtain rfl := Option.some.inj step
      have said := (ih ordered later).say words
      cases spaced with
      | false =>
        obtain rfl := Except.ok.inj here
        exact said
      | true =>
        obtain rfl := Except.ok.inj here
        exact said.say " "
    | opening s =>
      obtain ⟨-, rfl⟩ := eventPieces_opening here
      obtain ⟨-, rfl⟩ := Event.follow_opening_eq_some.1 step
      have inside := ih ordered later
      rw [Scope.reverse_path_cons] at inside
      rw [tokens_starts]
      exact inside.starts
    | closing s =>
      obtain ⟨-, rfl⟩ := eventPieces_closing here
      obtain rfl := Event.follow_closing_eq_some.1 step
      rw [tokens_stops, Scope.reverse_path_cons]
      exact (ih ordered later).stops _

theorem tokens_append_endTag (ps : List Piece) (tag : String) :
    tokens (ps ++ [.endTag tag]) = tokens ps ++ [.stop tag] := by
  induction ps with
  | nil => rfl
  | cons p ps ih =>
    cases p with
    | startTag e => exact congrArg (Token.start e :: ·) ih
    | endTag other => exact congrArg (Token.stop other :: ·) ih
    | words text =>
      rw [List.cons_append, tokens, ih, glue_before_stop]
      rfl

/-- Whether tokens are a document that says what a segment does: all is clean, the only
element that is in no other one is the one for a document, what is inside is well nested and
says the letters of the events, each within the elements of the scopes around it, and what
the character data spells are the texts. -/
structure Tells (ts : List Token) (s : Segment) : Prop where
  clean : ∀ t ∈ ts, t.Clean
  nested : ∃ inner, ts = .start root :: inner ++ [.stop root.tag] ∧
    Nested [root] inner (lettersIn [root] (Event.letters false [] s.events))
  spelled : unescapedData ts = some (Event.spoken false s.events)

/-- **The document of a segment.**  A regular segment that closes each scope by what mirrors
its opening, and whose scopes can be written, has a document with exactly one split into tags
and character data, and this tells the segment. -/
theorem exists_document {s : Segment} (whole : s.Whole) (range : ∀ e ∈ s.events, e.InRange)
    (regular : s.interactive = none) :
    ∃ text ts, s.ssml Segment.language = .ok text ∧ (∀ us, Spells us text ↔ us = ts) ∧
      Tells ts s := by
  obtain ⟨inner, ok⟩ := Segment.exists_piecesFrom range false
  let pieces : List Piece := .startTag root :: inner ++ [.endTag root.tag]
  have written : s.ssml Segment.language = .ok (pieces.flatMap Piece.written) := by
    rw [Segment.ssml, Segment.pieces, regular, ok]
    rfl
  have sound : ∀ p ∈ pieces, PieceSound p :=
    List.forall_mem_append.2
      ⟨List.forall_mem_cons.2 ⟨elementSound_root, pieceSound_of_piecesFrom ok⟩,
        List.forall_mem_singleton.2 elementSound_root.tag⟩
  have split := spells_tokens (fun e mem => (sound _ mem).wellFormed) fun tag mem => sound _ mem
  have parts : tokens pieces = .start root :: tokens inner ++ [.stop root.tag] :=
    congrArg (Token.start root :: ·) (tokens_append_endTag inner root.tag)
  have nested : Nested [root] (tokens inner)
      (lettersIn [root] (Event.letters false [] s.events)) := closes_tokens whole ok
  refine ⟨_, tokens pieces, written,
    fun us => ⟨fun other => other.unique split, fun same => same ▸ split⟩, ?_⟩
  refine ⟨clean_tokens fun e mem => (sound _ mem).clean, ⟨tokens inner, parts, nested⟩, ?_⟩
  -- The root is an element like the others, so all of the document is nested in nothing.
  have outer : Nested [] (tokens pieces)
      (lettersIn [root] (Event.letters false [] s.events) ++ []) :=
    parts ▸ .element nested (.nil [])
  rw [outer.unescapedData_eq, List.append_nil, ← Event.letters_eq_spoken false []]
  simp [lettersIn]

end Writing

end Document

/-- **Compiled segments are told by their documents.**  Each regular segment of a result is
written without a failure, the text splits into tags and character data in exactly one way,
and the tokens tell the segment: one root, elements that are nested and ended by their own
tags, no stray delimiter or ampersand, and the texts in their order, read back from their
escapes, each letter within the elements of just the scopes that are open around it. -/
theorem document_of_compile {chooser : Chooser} {xs : List Instruction}
    {segments : List Segment} (ok : (compile chooser xs).result = .ok segments) {s : Segment}
    (mem : s ∈ segments) (regular : s.interactive = none) :
    (∀ scope, .opening scope ∈ s.events → scope.elements = .ok scope.rendering) ∧
      ∃ text ts, s.ssml Segment.language = .ok text ∧
        (∀ us, Document.Spells us text ↔ us = ts) ∧ Document.Tells ts s := by
  rw [compile_result] at ok
  obtain ⟨expanded, -, built⟩ := Except.bind_eq_ok.1 ok
  have range := (inRange_of_buildSegments built s mem).events
  refine ⟨fun scope opened => ?_,
    Document.exists_document (settled_of_buildSegments built s mem).whole range regular⟩
  obtain ⟨elements, written⟩ := Scope.InRange.exists_elements (range _ opened)
  rw [Scope.rendering_eq written, written]

/-- A voice with markup for its id, and texts whose scopes are written with no element and
with two. -/
theorem document_of_marked_up_prompt :
    let xs := [.voice (some ⟨"v\"<", ""⟩), .text [.ofChar '&'], .turn .rate 0, .text [.ofChar '<'],
      .turn .rate 1, .turn .emphasis 1, .text [.ofChar 'a'], .text []]
    let v : Scope := .voice (some ⟨"v\"<", ""⟩)
    let s : Segment := { events := [.opening v, .text [.ofChar '&'], .opening (.style {}),
      .text [.ofChar '<'], .closing (.style {}), .opening (.style { rate := 1 }),
      .closing (.style { rate := 1 }), .opening (.style { rate := 1, emphasis := 1 }),
      .text [.ofChar 'a'], .text [], .closing (.style { rate := 1, emphasis := 1 }), .closing v] }
    (compile (.scripted [] 0) xs).result = .ok [s] ∧ s.interactive = none ∧
      (∃ text ts, s.ssml Segment.language = .ok text ∧
        (∀ us, Document.Spells us text ↔ us = ts) ∧ Document.Tells ts s) ∧
      Event.spoken false s.events =
        [.ofChar '&', .ofChar '<', .ofChar 'a', .ofChar ' '] := by
  intro xs v s
  have ok : (compile (.scripted [] 0) xs).result = .ok [s] := rfl
  exact ⟨ok, rfl, (document_of_compile ok List.mem_cons_self rfl).2, rfl⟩

end Recital
