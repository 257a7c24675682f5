/-
# Expansion is derivation

A template is a grammar, and expanding a text derives a text in which no symbol is left.  A
step of a derivation looks for the symbols in the order of the document, takes the first one
that occurs, and puts a rendering of its value in the place of the leftmost occurrence:

| before | after |
| --- | --- |
| `front ++ symbol ++ back` | `front ++ rendering ++ back` |

What came in is part of the text then, so the next step may find a symbol across a seam.  An
expansion takes as many steps as it needs, and is given up at `substitutionLimit`.  Hence what
it gives is derived in fewer steps (`of_run_expandWithin`), and what is derived in fewer steps
is given by some choices (`Derives.yields`).

All renderings of a derivation have the same room.  A template whose values nest no deeper than
that is derived from as if there were no bound to the room (`Fits.derives`).  One that nests
deeper may be loaded all the same, as loading has a room of its own, and nothing comes of it
(`expandDocument_nested_fails`).
-/

import Recital.Proofs.Json.Grammar
import Recital.Proofs.Template.Rendering
import Recital.Template.Search

namespace Recital

namespace Text

/-- The leftmost occurrence of a token splits the text, and no other split has less in
front. -/
theorem indexOf?_eq_some_iff_split {token text : Words} {i : Nat} :
    indexOf? token text = some i ↔
      ∃ front back, text = front ++ token ++ back ∧ front.length = i ∧
        ∀ front' back', text = front' ++ token ++ back' → front.length ≤ front'.length := by
  constructor
  · intro found
    obtain ⟨⟨back, stands⟩, first⟩ := (indexOf?_eq_some_iff token text i).1 found
    have size : (text.take i).length = i := List.length_take_of_le (indexOf?_le found)
    refine ⟨text.take i, back, ?_, size, ?_⟩
    · rw [List.append_assoc, stands, List.take_append_drop]
    · intro front' back' split
      rw [size]
      refine Nat.le_of_not_lt fun less => first front'.length less ⟨back', ?_⟩
      rw [split, List.append_assoc, List.drop_left]
  · rintro ⟨front, back, rfl, rfl, first⟩
    refine (indexOf?_eq_some_iff ..).2 ⟨⟨back, ?_⟩, ?_⟩
    · rw [List.append_assoc, List.drop_left]
    · rintro j less ⟨back', stands⟩
      have size : ((front ++ token ++ back).take j).length = j := by
        rw [List.length_take_of_le]
        simp only [List.length_append]
        omega
      have split := first ((front ++ token ++ back).take j) back' (by
        rw [List.append_assoc _ token back', stands, List.take_append_drop])
      omega

end Text

namespace Template

variable {t : Template} {u v w s : Words} {c c' : Chooser} {room n steps : Nat}

/-! ### Derivations -/

/-- Whether no symbol of a template occurs in a text. -/
def Settled (t : Template) (s : Words) : Prop := ∀ m ∈ t.members, ¬ Text.upper m.1 <:+: s

/-- Whether an occurrence of a key is the one to replace: no symbol of an earlier member occurs
in the text, and this is the leftmost occurrence. -/
structure Due (t : Template) (front key back : Words) (value : Value) : Prop where
  member : ∃ earlier later, t.members = earlier ++ (key, value) :: later ∧
    ∀ m ∈ earlier, ¬ Text.upper m.1 <:+: front ++ Text.upper key ++ back
  leftmost : ∀ front' back',
    front ++ Text.upper key ++ back = front' ++ Text.upper key ++ back' →
      front.length ≤ front'.length

/-- One step of a derivation, with room for `room` arrays in its rendering. -/
inductive Step (t : Template) (room : Nat) : Words → Words → Prop where
  | replace {earlier later : List (Words × Value)} {key : Words} {value : Value}
      {front back rendering : Words}
      (members : t.members = earlier ++ (key, value) :: later)
      (first : ∀ m ∈ earlier, ¬ Text.upper m.1 <:+: front ++ Text.upper key ++ back)
      (leftmost : ∀ front' back',
        front ++ Text.upper key ++ back = front' ++ Text.upper key ++ back' →
          front.length ≤ front'.length)
      (pick : Pick room value rendering) :
      Step t room (front ++ Text.upper key ++ back) (front ++ rendering ++ back)

/-- Whether a number of steps lead from one text to another. -/
inductive Derives (t : Template) (room : Nat) : Nat → Words → Words → Prop where
  | refl (u : Words) : Derives t room 0 u u
  | head {n : Nat} {u v w : Words} (step : Step t room u v) (rest : Derives t room n v w) :
      Derives t room (n + 1) u w

/-- Whether no value of a template nests arrays deeper than there is room. -/
def Fits (t : Template) (room : Nat) : Prop := ∀ m ∈ t.members, m.2.nesting ≤ room

/-- **Where a template fits**, derivations with any other room are derivations with this one. -/
theorem Fits.derives (fits : t.Fits room) {d : Nat} (h : t.Derives d n u s) :
    t.Derives room n u s := by
  induction h with
  | refl u => exact .refl u
  | head step _ ih =>
    obtain ⟨members, first, leftmost, pick⟩ := step
    have within := fits _ (by rw [members]; exact List.mem_append_right _ List.mem_cons_self)
    exact .head (.replace members first leftmost (pick.of_nesting_le within)) ih

/-! ### The symbol that is replaced -/

theorem firstMatch?_eq_none_iff : firstMatch? t.symbols u = none ↔ t.Settled u := by
  have none_iff (m : Words × Value) :
      ((Text.indexOf? (Text.upper m.1) u).map fun i => (i, (Text.upper m.1).length, m.2)) = none ↔
        ¬ Text.upper m.1 <:+: u := by
    rw [Option.map_eq_none_iff, Text.indexOf?_eq_none_iff]
  rw [firstMatch?, symbols, List.findSome?_map, List.findSome?_eq_none_iff]
  exact forall₂_congr fun m _ => none_iff m

theorem firstMatch?_eq_some_iff {i length : Nat} {value : Value} :
    firstMatch? t.symbols u = some (i, length, value) ↔
      ∃ earlier key later, t.members = earlier ++ (key, value) :: later ∧
        (∀ m ∈ earlier, ¬ Text.upper m.1 <:+: u) ∧
        Text.indexOf? (Text.upper key) u = some i ∧ length = (Text.upper key).length := by
  rw [firstMatch?, symbols, List.findSome?_map, List.findSome?_eq_some_iff]
  constructor
  · rintro ⟨earlier, ⟨key, value'⟩, later, members, found, absent⟩
    obtain ⟨i', place, same⟩ := Option.map_eq_some_iff.1 found
    cases same
    refine ⟨earlier, key, later, members, ?_, place, rfl⟩
    intro m mem
    exact (Text.indexOf?_eq_none_iff ..).1 (Option.map_eq_none_iff.1 (absent m mem))
  · rintro ⟨earlier, key, later, members, absent, place, rfl⟩
    refine ⟨earlier, (key, value), later, members, ?_, ?_⟩
    · exact Option.map_eq_some_iff.2 ⟨i, place, rfl⟩
    · intro m mem
      exact Option.map_eq_none_iff.2 ((Text.indexOf?_eq_none_iff ..).2 (absent m mem))

/-- What is found is what is due. -/
theorem firstMatch?_eq_some_iff_due {i length : Nat} {value : Value} :
    firstMatch? t.symbols u = some (i, length, value) ↔
      ∃ front key back, t.Due front key back value ∧ u = front ++ Text.upper key ++ back ∧
        front.length = i ∧ (Text.upper key).length = length := by
  rw [firstMatch?_eq_some_iff]
  constructor
  · rintro ⟨earlier, key, later, members, absent, place, rfl⟩
    obtain ⟨front, back, rfl, rfl, leftmost⟩ := Text.indexOf?_eq_some_iff_split.1 place
    exact ⟨front, key, back, ⟨⟨earlier, later, members, absent⟩, leftmost⟩, rfl, rfl, rfl⟩
  · rintro ⟨front, key, back, ⟨⟨earlier, later, members, absent⟩, leftmost⟩, rfl, rfl, rfl⟩
    have place : Text.indexOf? (Text.upper key) (front ++ Text.upper key ++ back) =
        some front.length := Text.indexOf?_eq_some_iff_split.2 ⟨front, back, rfl, rfl, leftmost⟩
    exact ⟨earlier, key, later, members, absent, place, rfl⟩

/-- Replacing what stands behind the front, by its length. -/
theorem replace_middle (front token rendering back : Words) :
    (front ++ token ++ back).take front.length ++ rendering ++
        (front ++ token ++ back).drop (front.length + token.length) =
      front ++ rendering ++ back := by
  rw [← List.length_append, List.drop_left, List.append_assoc front token, List.take_left]

/-- A step is the substitution of the first symbol that occurs. -/
theorem step_iff : t.Step room u v ↔
    ∃ i length value rendering, firstMatch? t.symbols u = some (i, length, value) ∧
      Pick room value rendering ∧ v = u.take i ++ rendering ++ u.drop (i + length) := by
  constructor
  · intro step
    obtain @⟨earlier, later, key, value, front, back, rendering, members, first, leftmost, pick⟩ :=
      step
    refine ⟨front.length, (Text.upper key).length, value, rendering, ?_, pick, ?_⟩
    · exact firstMatch?_eq_some_iff_due.2
        ⟨front, key, back, ⟨⟨earlier, later, members, first⟩, leftmost⟩, rfl, rfl, rfl⟩
    · rw [replace_middle]
  · rintro ⟨i, length, value, rendering, found, pick, rfl⟩
    obtain ⟨front, key, back, due, rfl, rfl, rfl⟩ := firstMatch?_eq_some_iff_due.1 found
    obtain ⟨earlier, later, members, first⟩ := due.member
    rw [replace_middle]
    exact .replace members first due.leftmost pick

/-! ### Expansions -/

/-- Whatever the source, what an expansion gives has no symbol left and is derived in fewer
steps than were allowed. -/
theorem of_run_expandWithin (h : (expandWithin room t.symbols steps u).run c = (.ok s, c')) :
    t.Settled s ∧ ∃ n < steps, t.Derives room n u s := by
  induction steps generalizing u c with
  | zero => exact absurd h run_throw
  | succ steps ih =>
    rw [expandWithin] at h
    cases found : firstMatch? t.symbols u with
    | none =>
      rw [found] at h
      cases h
      exact ⟨firstMatch?_eq_none_iff.1 found, 0, Nat.succ_pos steps, .refl _⟩
    | some place =>
      obtain ⟨i, length, value⟩ := place
      rw [found] at h
      obtain ⟨rendering, c₁, rendered, rest⟩ := ExceptT.exists_of_run_bind_eq_ok h
      obtain ⟨settled, n, lt, derived⟩ := ih rest
      have step : t.Step room u (u.take i ++ rendering ++ u.drop (i + length)) :=
        step_iff.2 ⟨i, length, value, rendering, found, Pick.of_run value rendered, rfl⟩
      exact ⟨settled, n + 1, Nat.succ_lt_succ lt, .head step derived⟩

/-- A derivation of fewer steps than are allowed, to a text without symbols, is what some
choices make of the text. -/
theorem Derives.yields (derived : t.Derives room n u s) (settled : t.Settled s)
    (lt : n < steps) : ∃ used, Yields (expandWithin room t.symbols steps u) used s := by
  induction derived generalizing steps with
  | refl u =>
    obtain ⟨steps, rfl⟩ := Nat.exists_eq_succ_of_ne_zero (Nat.ne_of_gt lt)
    refine ⟨[], ?_⟩
    rw [expandWithin, firstMatch?_eq_none_iff.2 settled]
    exact Yields.pure u
  | head step _ ih =>
    obtain ⟨steps, rfl⟩ := Nat.exists_eq_succ_of_ne_zero (Nat.ne_of_gt (Nat.zero_lt_of_lt lt))
    obtain ⟨i, length, value, rendering, found, pick, rfl⟩ := step_iff.1 step
    obtain ⟨used, here⟩ := pick.yields
    obtain ⟨more, later⟩ := ih settled (Nat.lt_of_succ_lt_succ lt)
    refine ⟨used ++ more, ?_⟩
    rw [expandWithin, found]
    exact here.bind later

/-- An expansion by the template of a document. -/
theorem run_expandDocument {document : String} {room : Room}
    (loaded : load room.containers document = .ok t) (choices : Choices) (start : Words) :
    (expandDocument document start).run ⟨choices, room⟩ =
      (expandWithin room.arrays t.symbols substitutionLimit start).run ⟨choices, room⟩ := by
  have here : (get : Draw Chooser).run ⟨choices, room⟩ = (.ok ⟨choices, room⟩, ⟨choices, room⟩) :=
    rfl
  rw [expandDocument, ExceptT.run_bind_of_ok here, loaded]
  dsimp only
  rw [expand_eq]

/-- **Expansion is derivation.**  For a template that is accepted with the room there is, and any
start: what an expansion gives, whatever the source of its choices, has no symbol left and is
derived in fewer steps than the limit; and whatever has no symbol left and is derived in fewer
steps than the limit is given where the choices are those of some script, which is used up.  The
renderings of these derivations have the room there is, and that excludes none where the template
fits. -/
theorem expandDocument_derives {document : String} {room : Room}
    (loaded : load room.containers document = .ok t) (start s : Words) :
    (∀ choices c', (expandDocument document start).run ⟨choices, room⟩ = (.ok s, c') →
      t.Settled s ∧ ∃ n < substitutionLimit, t.Derives room.arrays n start s) ∧
    (∀ n < substitutionLimit, t.Derives room.arrays n start s → t.Settled s →
      ∃ picks : List Int, (expandDocument document start).run (.scripted picks 0 room) =
        (.ok s, .scripted picks picks.length room)) ∧
    (t.Fits room.arrays → ∀ d n, t.Derives d n start s → t.Derives room.arrays n start s) := by
  refine ⟨?_, ?_, fun fits d n => fits.derives⟩
  · intro choices c' h
    rw [run_expandDocument loaded] at h
    exact of_run_expandWithin h
  · intro n lt derived settled
    obtain ⟨picks, yields⟩ := derived.yields settled lt
    have run := yields [] [] room
    rw [List.nil_append, List.append_nil, List.length_nil, Nat.zero_add] at run
    exact ⟨picks, (run_expandDocument loaded (.scripted picks 0) start).trans run⟩

/-- A document whose keys are not in upper case. -/
def greetingDocument : String :=
  "\x7b\"sentences\": [\"NAME!\"], \"name\": [\"you\", [\"dear\", \"A\"]]\x7d"

/-- The template of the document. -/
def greeting : Template :=
  ⟨[("sentences", .list [.text "NAME!"]),
    ("name", .list [.text "you", .list [.text "dear", .text "A"]])]⟩

/-- The room that the document takes. -/
def greetingRoom : Room := { containers := 3, arrays := 2 }

/-- Two steps lead to one of the two texts of the document, however much room there is beyond
what it takes: the keys are found in upper case, and the array that was chosen is said as a
whole. -/
theorem greeting_derives (more : Nat) : greeting.Derives (2 + more) 2 start "dear A!" := by
  rw [Nat.add_comm]
  have whole : Pick (more + 2) (.list [.text "NAME!"]) "NAME!" :=
    .element List.mem_cons_self (.pick (fun _ same => nomatch same) (.text _))
  have each : Each (more + 1) [.text "dear", .text "A"] ["dear", "A"] :=
    .cons (.text _) (.cons (.text _) .nil)
  have name : Pick (more + 2) (.list [.text "you", .list [.text "dear", .text "A"]]) "dear A" :=
    .element (List.mem_cons_of_mem _ List.mem_cons_self) (.sequence each)
  have first : greeting.Step (more + 2) start "NAME!" :=
    step_iff.2 ⟨0, 9, _, "NAME!", rfl, whole, by decide⟩
  have second : greeting.Step (more + 2) "NAME!" "dear A!" :=
    step_iff.2 ⟨0, 4, _, "dear A", rfl, name, by decide⟩
  exact .head first (.head second (.refl _))

theorem greeting_fits : greeting.Fits 2 := by
  intro m mem
  rcases List.mem_cons.1 mem with rfl | mem
  · decide
  · obtain rfl := List.mem_singleton.1 mem
    decide

/-- The document is accepted where there is room for it, whatever comes of it is derived, and the
text above does come of it, being derived with any room. -/
theorem expandDocument_greeting :
    load greetingRoom.containers greetingDocument = .ok greeting ∧ greeting.Fits 2 ∧
      (∀ choices c' s,
        (expandDocument greetingDocument start).run ⟨choices, greetingRoom⟩ = (.ok s, c') →
        greeting.Settled s ∧ ∃ n < substitutionLimit, greeting.Derives 2 n start s) ∧
      ∃ picks : List Int,
        (expandDocument greetingDocument start).run (.scripted picks 0 greetingRoom) =
          (.ok "dear A!", .scripted picks picks.length greetingRoom) := by
  have loaded : load greetingRoom.containers greetingDocument = .ok greeting := rfl
  refine ⟨loaded, greeting_fits, ?_, ?_⟩
  · intro choices c' s
    exact (expandDocument_derives loaded start s).1 choices c'
  · have settled : greeting.Settled "dear A!" := firstMatch?_eq_none_iff.1 rfl
    obtain ⟨-, given, any⟩ := expandDocument_derives loaded start "dear A!"
    exact given 2 (by decide) (any greeting_fits _ 2 (greeting_derives 5)) settled

/-! ### Arrays that are too deep -/

/-- A text inside `n` arrays, each of which holds nothing else. -/
def nested : Nat → Value
  | 0 => .text "x"
  | n + 1 => .list [nested n]

/-- The characters of a document with it. -/
def nestedText (n : Nat) : List Char :=
  "\x7b\"SENTENCES\":".toList ++ (List.replicate n '[' ++
    ("\"x\"".toList ++ (List.replicate n ']' ++ ['\x7d'])))

/-- The document. -/
def nestedDocument (n : Nat) : String := String.ofList (nestedText n)

/-- The template of the document. -/
def nestedTemplate (n : Nat) : Template := ⟨[("SENTENCES", nested n)]⟩

section Lexemes

open Json (Lexeme Token tokensFrom lexemes Spells)

/-- A character that is a token by itself, repeated. -/
theorem lexemes_replicate {c : Char} {l : Lexeme}
    (one : ∀ position rest,
      tokensFrom position 0 (c :: rest) = ⟨position, l⟩ :: tokensFrom (position + 1) 0 rest)
    (n position : Nat) (rest : List Char) :
    (tokensFrom position 0 (List.replicate n c ++ rest)).map Token.lexeme =
      List.replicate n l ++ (tokensFrom (position + n) 0 rest).map Token.lexeme := by
  induction n generalizing position with
  | zero => rfl
  | succ n ih =>
    have next : position + (n + 1) = position + 1 + n := by omega
    rw [List.replicate_succ, List.cons_append, one, List.map_cons, ih, next]
    rfl

theorem lexemes_head (rest : List Char) :
    (tokensFrom 0 0 ("\x7b\"SENTENCES\":".toList ++ rest)).map Token.lexeme =
      Lexeme.opening .object :: Lexeme.text "SENTENCES" :: Lexeme.colon ::
        (tokensFrom 13 0 rest).map Token.lexeme := rfl

theorem lexemes_x (position : Nat) (rest : List Char) :
    (tokensFrom position 0 ("\"x\"".toList ++ rest)).map Token.lexeme =
      .text "x" :: (tokensFrom (position + 3) 0 rest).map Token.lexeme := by
  have words : Json.textFrom position (position + 1) 0 ('x' :: '"' :: rest) =
      .ok ("x", position + 1 + 1 + 1) := rfl
  have used : position + 1 + 1 + 1 - position - 1 = 2 := by omega
  have here : Json.lexeme position '"' ('x' :: '"' :: rest) = (.text "x", 2) := by
    change Json.textLexeme position ('x' :: '"' :: rest) = _
    rw [Json.textLexeme, words]
    dsimp only
    rw [used]
  change (tokensFrom position 0 ('"' :: 'x' :: '"' :: rest)).map Token.lexeme = _
  rw [tokensFrom, if_neg (by decide), here]
  rfl

theorem toList_nestedDocument (n : Nat) : (nestedDocument n).toList = nestedText n :=
  String.toList_ofList

theorem lexemes_nestedText (n : Nat) :
    lexemes (nestedText n) = Lexeme.opening .object :: Lexeme.text "SENTENCES" :: Lexeme.colon ::
      (List.replicate n (Lexeme.opening .array) ++
        Lexeme.text "x" :: List.replicate n (Lexeme.closing .array) ++
        [Lexeme.closing .object]) := by
  have last (position : Nat) :
      (tokensFrom position 0 ['\x7d']).map Token.lexeme = [.closing .object] := rfl
  have opening (rest : List Char) := lexemes_replicate (c := '[') (fun _ _ => rfl) n 13 rest
  have closing (position : Nat) (rest : List Char) :=
    lexemes_replicate (c := ']') (fun _ _ => rfl) n position rest
  -- by terms, as `rw` would open the literal in front
  refine (lexemes_head _).trans (congrArg _ ?_)
  rw [opening, lexemes_x, closing, last]
  simp only [List.append_assoc, List.cons_append]

theorem spells_nested {d n : Nat} (fits : d + n ≤ room) :
    Spells room d (List.replicate n (Lexeme.opening .array) ++
      Lexeme.text "x" :: List.replicate n (Lexeme.closing .array)) (nested n) := by
  induction n generalizing d with
  | zero => exact .text
  | succ n ih =>
    have inner := ih (d := d + 1) (by omega)
    have whole : Spells room d _ (nested (n + 1)) := .array (by omega) .array inner
    rw [List.replicate_succ, List.replicate_succ']
    simpa only [List.append_assoc, List.cons_append, List.nil_append] using whole

/-- The document is a template where there is room for its arrays and the object. -/
theorem load_nestedDocument {n : Nat} (fits : n < room) :
    load room (nestedDocument n) = .ok (nestedTemplate n) := by
  have front : (nestedText n).head? = some '\x7b' := rfl
  have plain : ¬ Json.HasMark (nestedText n) := by
    rw [Json.HasMark, front]
    decide
  have spells : Spells room 0 (lexemes (nestedText n)) (.object [("SENTENCES", nested n)]) := by
    have inner : Spells room 1 _ (nested n) := spells_nested (by omega)
    rw [lexemes_nestedText]
    exact .object (Nat.zero_lt_of_lt fits) .object inner
  rw [load, toList_nestedDocument, Json.read_eq_ok_iff.2 ⟨plain, spells⟩]
  rfl

end Lexemes

theorem pick_nested (n : Nat) : Pick n (nested n) "x" ∧ Item n (nested n) "x" := by
  induction n with
  | zero => exact ⟨.text _, .pick (fun _ same => nomatch same) (.text _)⟩
  | succ n ih =>
    have each : Each (n + 1) [nested n] ["x"] := .cons ih.1 .nil
    exact ⟨.element List.mem_cons_self ih.2, .sequence each⟩

/-- A rendering goes into all of the arrays. -/
theorem le_of_pick_nested (n : Nat) : (∀ room w, Pick room (nested n) w → n ≤ room) ∧
    ∀ room w, Item room (nested n) w → n ≤ room := by
  induction n with
  | zero => exact ⟨fun _ _ _ => Nat.zero_le _, fun _ _ _ => Nat.zero_le _⟩
  | succ n ih =>
    constructor
    · rintro _ w ⟨⟩
      next room v mem item =>
        obtain rfl := List.mem_singleton.1 mem
        exact Nat.succ_le_succ (ih.2 room w item)
    · rintro _ w (⟨each⟩ | ⟨noArray, -⟩)
      · cases each with
        | cons first _ => exact Nat.succ_le_succ (ih.1 _ _ first)
      · exact absurd rfl (noArray _)

/-- Where there is no room for the arrays, nothing comes of the document. -/
theorem expandDocument_nested_ne {n : Nat} {room : Room} (loads : n < room.containers)
    (deep : room.arrays < n) (choices : Choices) (s : Words) (c' : Chooser) :
    (expandDocument (nestedDocument n) start).run ⟨choices, room⟩ ≠ (.ok s, c') := by
  intro h
  rw [run_expandDocument (load_nestedDocument loads)] at h
  obtain ⟨settled, m, -, derived⟩ := of_run_expandWithin h
  have found : firstMatch? (nestedTemplate n).symbols start = some (0, 9, nested n) := rfl
  cases derived with
  | refl =>
    rw [firstMatch?_eq_none_iff.2 settled] at found
    cases found
  | head step rest =>
    obtain ⟨i, length, value, rendering, first, pick, -⟩ := step_iff.1 step
    cases found.symm.trans first
    exact absurd ((le_of_pick_nested n).1 _ _ pick) (Nat.not_le.2 deep)

/-- **Not every derivation is one that an expansion makes.**  A text inside 700 arrays is loaded
where there is room for 980 containers, and one step leads to it; but with room for 480 arrays no
choices make the expansion give anything. -/
theorem expandDocument_nested_fails :
    let room : Room := { containers := 980, arrays := 480 }
    load room.containers (nestedDocument 700) = .ok (nestedTemplate 700) ∧
      (nestedTemplate 700).Derives 700 1 start "x" ∧ (nestedTemplate 700).Settled "x" ∧
      ∀ choices s c',
        (expandDocument (nestedDocument 700) start).run ⟨choices, room⟩ ≠ (.ok s, c') := by
  intro room
  have step : (nestedTemplate 700).Step 700 start "x" :=
    step_iff.2 ⟨0, 9, nested 700, "x", rfl, (pick_nested 700).1, by decide⟩
  exact ⟨load_nestedDocument (by decide), .head step (.refl _), firstMatch?_eq_none_iff.1 rfl,
    expandDocument_nested_ne (by decide) (by decide)⟩

end Template
end Recital
