/-
# What is written between two texts

Texts that follow each other in a segment should stay separate words.  Where they stand directly
behind each other a space is written between them, and where there is markup the tags of it:

| between two texts | written |
| --- | --- |
| nothing | a space |
| a voice, a sentence or a paragraph is opened or closed | at least one tag |
| a style in which something is set is opened or closed | at least one tag |
| only styles in which nothing is set are opened and closed | nothing |

So the two texts are glued in the last case, and in no other (`ssml_between`): an event stands
between them, and there is no space, but its scope has no element, and there is no tag.  A style
in which nothing is set is given a scope when a dial is turned to level 0 and the others stand
there, so prompts where no dial is turned to level 0 do not have it.
-/

import Recital.Proofs.Document.Segment
import Recital.Proofs.Draft.Carried

namespace Recital

/-! ### Scopes without an element -/

theorem levelAttribute_eq_nil_iff {name : String} {table : List String} {level : Int} :
    levelAttribute name table level = .ok [] ↔ level = 0 := by
  rw [levelAttribute]
  split
  · rename_i unset
    simp [unset]
  · rename_i set
    constructor
    · intro ok
      obtain ⟨word, -, same⟩ := Except.bind_eq_ok.1 ok
      cases same
    · exact fun unset => absurd unset set

/-- A style has no element if nothing is set in it. -/
theorem Style.elements_eq_nil_iff {s : Style} : s.elements = .ok [] ↔ s = {} := by
  constructor
  · intro ok
    obtain ⟨rate, rateOk, ok⟩ := Except.bind_eq_ok.1 ok
    obtain ⟨volume, volumeOk, ok⟩ := Except.bind_eq_ok.1 ok
    obtain ⟨emphasis, emphasisOk, ok⟩ := Except.bind_eq_ok.1 ok
    obtain ⟨prosody, stress⟩ := List.append_eq_nil_iff.1 (Except.ok.inj ok)
    have unset : rate ++ volume = [] := by
      simpa using prosody
    obtain ⟨rfl, rfl⟩ := List.append_eq_nil_iff.1 unset
    obtain rfl : emphasis = [] := by simpa using stress
    have rate := levelAttribute_eq_nil_iff.1 rateOk
    have volume := levelAttribute_eq_nil_iff.1 volumeOk
    have emphasis := levelAttribute_eq_nil_iff.1 emphasisOk
    calc s = ⟨s.rate, s.emphasis, s.volume⟩ := rfl
      _ = _ := by rw [rate, volume, emphasis]
  · rintro rfl
    rfl

theorem Scope.rendering_eq_nil_iff {s : Scope} (range : s.InRange) :
    s.rendering = [] ↔ s = .style {} := by
  obtain ⟨elements, ok⟩ := range.exists_elements
  rw [rendering_eq ok]
  cases s with
  | voice voice =>
    cases voice with
    | none => cases ok
    | some v =>
      obtain rfl := Except.ok.inj ok
      simp
  | style s =>
    rw [Scope.style.injEq, ← Style.elements_eq_nil_iff]
    exact ⟨fun none => none ▸ ok, fun none => Except.ok.inj (ok.symm.trans none)⟩
  | sentence | paragraph =>
    obtain rfl := Except.ok.inj ok
    simp

/-! ### Events as they are written -/

theorem Text.escaped_space : escaped " " = (" " : Words) := by decide

theorem Piece.startTag_written_ne_nil (e : Element) : (Piece.startTag e).written ≠ [] := by
  have bracket : ("<" : Words) ≠ [] := by decide
  simp [Piece.written, bracket]

theorem Piece.endTag_written_ne_nil (tag : String) : (Piece.endTag tag).written ≠ [] := by
  have bracket : ("</" : Words) ≠ [] := by decide
  simp [Piece.written, bracket]

namespace Event

/-- The tags that an event is written as. -/
def tags : Event → Words
  | .opening s => s.rendering.flatMap fun e => (Piece.startTag e).written
  | .closing s => s.rendering.reverse.flatMap fun e => (Piece.endTag e.tag).written
  | .text _ => []

/-- What is written for events.  `spaced` says that a text stands directly before them. -/
def written (spaced : Bool) : List Event → Words
  | [] => []
  | .text words :: es =>
    (if spaced then (" " : Words) else []) ++ Text.escaped words ++ written true es
  | e :: es => e.tags ++ written false es

/-- What is written for events that a text follows, up to that text. -/
def lead (spaced : Bool) : List Event → Words
  | [] => if spaced then " " else []
  | .text words :: es =>
    (if spaced then (" " : Words) else []) ++ Text.escaped words ++ lead true es
  | e :: es => e.tags ++ lead false es

variable {es mid : List Event} {spaced : Bool}

theorem written_of_piecesFrom {pieces : List Piece}
    (ok : Segment.piecesFrom spaced es = .ok pieces) :
    pieces.flatMap Piece.written = written spaced es := by
  induction es generalizing spaced pieces with
  | nil =>
    obtain rfl := Except.ok.inj ok
    rfl
  | cons e es ih =>
    obtain ⟨first, rest, here, later, rfl⟩ := Document.piecesFrom_cons_eq_ok ok
    rw [List.flatMap_append, ih later]
    cases e with
    | text words =>
      obtain rfl := Except.ok.inj here
      cases spaced <;> simp [written, Piece.written, Event.words?, Text.escaped_space]
    | opening s =>
      obtain ⟨-, rfl⟩ := Document.eventPieces_opening here
      rw [List.flatMap_map]
      rfl
    | closing s =>
      obtain ⟨-, rfl⟩ := Document.eventPieces_closing here
      rw [List.flatMap_map]
      rfl

/-- A text divides what is written. -/
theorem written_append_text (spaced : Bool) (es : List Event) (words : Words) (fs : List Event) :
    written spaced (es ++ .text words :: fs) =
      lead spaced es ++ Text.escaped words ++ written true fs := by
  induction es generalizing spaced with
  | nil => rfl
  | cons e es ih =>
    cases e with
    | text first => simp only [List.cons_append, written, lead, ih, List.append_assoc]
    | opening s => simp only [List.cons_append, written, lead, ih, List.append_assoc]
    | closing s => simp only [List.cons_append, written, lead, ih, List.append_assoc]

theorem lead_cons_of_markup {e : Event} (markup : e.IsMarkup) :
    lead spaced (e :: es) = e.tags ++ lead false es := by
  cases e with
  | text words => cases markup
  | opening s => rfl
  | closing s => rfl

theorem lead_of_markup (markup : ∀ e ∈ mid, e.IsMarkup) : lead false mid = mid.flatMap tags := by
  induction mid with
  | nil => rfl
  | cons e mid ih =>
    obtain ⟨here, rest⟩ := List.forall_mem_cons.1 markup
    rw [lead_cons_of_markup here, ih rest, List.flatMap_cons]

theorem flatMap_eq_nil_iff_of_ne_nil {α β : Type} {f : α → List β} (filled : ∀ x, f x ≠ [])
    {xs : List α} : xs.flatMap f = [] ↔ xs = [] := by
  cases xs with
  | nil => exact ⟨fun _ => rfl, fun _ => rfl⟩
  | cons x xs => simp [filled x]

/-- Markup has no tags if it opens or closes a style in which nothing is set. -/
theorem tags_eq_nil_iff {e : Event} (markup : e.IsMarkup) (range : e.InRange) :
    e.tags = [] ↔ e = .opening (.style {}) ∨ e = .closing (.style {}) := by
  cases e with
  | text words => cases markup
  | opening s =>
    rw [tags, flatMap_eq_nil_iff_of_ne_nil Piece.startTag_written_ne_nil,
      Scope.rendering_eq_nil_iff range]
    simp
  | closing s =>
    rw [tags, flatMap_eq_nil_iff_of_ne_nil fun e : Element => Piece.endTag_written_ne_nil e.tag,
      List.reverse_eq_nil_iff, Scope.rendering_eq_nil_iff range]
    simp

/-- **Where nothing is written between two texts,** there is markup, and none of it has a tag. -/
theorem lead_eq_nil_iff (markup : ∀ e ∈ mid, e.IsMarkup) (range : ∀ e ∈ mid, e.InRange) :
    lead true mid = [] ↔
      mid ≠ [] ∧ ∀ e ∈ mid, e = .opening (.style {}) ∨ e = .closing (.style {}) := by
  cases mid with
  | nil =>
    have space : lead true [] ≠ [] := by decide
    simp [space]
  | cons e mid =>
    obtain ⟨here, rest⟩ := List.forall_mem_cons.1 markup
    rw [lead_cons_of_markup here, lead_of_markup rest, ← List.flatMap_cons,
      List.flatMap_eq_nil_iff]
    have silent : ∀ f ∈ e :: mid, f.tags = [] ↔
        f = .opening (.style {}) ∨ f = .closing (.style {}) :=
      fun f mem => tags_eq_nil_iff (markup f mem) (range f mem)
    rw [forall₂_congr silent]
    simp

end Event

/-- A regular segment as it is written. -/
theorem Segment.ssml_eq_written {s : Segment} (range : ∀ e ∈ s.events, e.InRange)
    (regular : s.interactive = none) (lang : String) :
    s.ssml lang = .ok ((Piece.startTag (speak lang)).written ++ Event.written false s.events ++
      (Piece.endTag "speak").written) := by
  obtain ⟨inner, ok⟩ := exists_piecesFrom range false
  rw [ssml, pieces, regular, ok, ← Event.written_of_piecesFrom ok]
  simp [Bind.bind, Except.bind, pure, Except.pure]

/-! ### Styles in which nothing is set -/

/-- Whether an instruction turns a dial of the style to level 0. -/
def Instruction.unsets : Instruction → Bool
  | .turn .rate level | .turn .emphasis level | .turn .voiceVolume level => level.val = 0
  | _ => false

/-- An instruction that turns no dial to level 0 makes no style in which nothing is set. -/
theorem Instruction.sets_of_not_unsets {x : Instruction} (sets : x.unsets = false) :
    x.Sets (· ≠ .style {}) fun _ => True := by
  cases x with
  | voice set => exact fun v _ same => nomatch same
  | turn dial level =>
    cases dial with
    | outputVolume => exact trivial
    | _ =>
      have above : level.val ≠ 0 := by simpa [unsets] using sets
      intro s _ same
      simp only [Scope.style.injEq, Style.mk.injEq] at same
      omega
  | reset => exact trivial
  | beginSentence => exact fun same => nomatch same
  | beginParagraph => exact fun same => nomatch same
  | _ => exact trivial

/-- **Where no dial is turned to level 0** no scope of a segment is a style in which nothing is
set. -/
theorem sets_of_compile {chooser : Chooser} {xs : List Instruction} {segments : List Segment}
    (ok : (compile chooser xs).result = .ok segments) (sets : ∀ x ∈ xs, x.unsets = false)
    {s : Segment} (mem : s ∈ segments) : ∀ e ∈ s.events, e.Sets (· ≠ .style {}) := by
  obtain ⟨expanded, unrolled, built⟩ := exists_built_of_compile ok
  have kept : ∀ x ∈ expanded, x.unsets = false :=
    Instruction.forall_mem_expandLoops rfl (fun _ => rfl)
      (fun x known _ => sets x (Instruction.mem_of_mem_leadSettings known)) unrolled
  have carried := carries_of_buildSegments trivial
    (fun x known => Instruction.sets_of_not_unsets (kept x known)) built
  exact (carried s mem).events

/-- **What is written between two texts.**  Take a segment of a result, in any language, and two
of its texts with markup between them at most.  It is written as what comes before the first
text, the escaped text, what is written for the markup, the escaped second text and what follows.
Nothing is written in between if and only if there is markup and all of it opens or closes styles
in which nothing is set; and then some instruction has turned a dial of the style to level 0. -/
theorem ssml_between {chooser : Chooser} {xs : List Instruction} {segments : List Segment}
    (ok : (compile chooser xs).result = .ok segments) {s : Segment} (mem : s ∈ segments)
    (regular : s.interactive = none) {before mid after : List Event} {first second : Words}
    (events : s.events = before ++ .text first :: (mid ++ .text second :: after))
    (markup : ∀ e ∈ mid, e.IsMarkup) (lang : String) :
    s.ssml lang = .ok (((Piece.startTag (Segment.speak lang)).written ++ Event.lead false before) ++
        Text.escaped first ++ Event.lead true mid ++ Text.escaped second ++
        (Event.written true after ++ (Piece.endTag "speak").written)) ∧
      (Event.lead true mid = [] ↔
        mid ≠ [] ∧ ∀ e ∈ mid, e = .opening (.style {}) ∨ e = .closing (.style {})) ∧
      (Event.lead true mid = [] → ∃ x ∈ xs, x.unsets) := by
  obtain ⟨expanded, -, built⟩ := exists_built_of_compile ok
  have range := (inRange_of_buildSegments built s mem).events
  have inside : ∀ e ∈ mid, e ∈ s.events := by
    intro e known
    simp [events, known]
  have nothing := Event.lead_eq_nil_iff markup fun e known => range e (inside e known)
  refine ⟨?_, nothing, ?_⟩
  · rw [s.ssml_eq_written range regular, events, Event.written_append_text,
      Event.written_append_text]
    simp only [List.append_assoc]
  · intro glued
    obtain ⟨some, unset⟩ := nothing.1 glued
    by_contra none
    have sets : ∀ x ∈ xs, x.unsets = false := by simpa using none
    obtain ⟨e, known⟩ := List.exists_mem_of_ne_nil mid some
    have fit := sets_of_compile ok sets mem e (inside e known)
    rcases unset e known with rfl | rfl
    · exact fit rfl
    · exact fit rfl

/-- Between these texts stands a style in which nothing is set, and inside of it a sentence, so
they are kept apart. -/
theorem ssml_between_at_sentence :
    let xs := [.text "a", .turn .rate 0, .beginSentence, .text "b"]
    let mid : List Event := [.opening (.style {}), .opening .sentence]
    let s : Segment := { events := [] ++ .text "a" :: (mid ++ .text "b" ::
      [.closing .sentence, .closing (.style {})]) }
    (compile (.scripted [] 0) xs).result = .ok [s] ∧ s.interactive = none ∧
      (∀ e ∈ mid, e.IsMarkup) ∧ Event.lead true mid = "<s>" ∧
      s.ssml Segment.language = .ok (((Piece.startTag (Segment.speak Segment.language)).written ++
        []) ++ Text.escaped "a" ++ ("<s>" : Words) ++ Text.escaped "b" ++
        (("</s>" : Words) ++ (Piece.endTag "speak").written)) := by
  intro xs mid s
  have ok : (compile (.scripted [] 0) xs).result = .ok [s] := rfl
  have markup : ∀ e ∈ mid, e.IsMarkup := by simp [mid, Event.IsMarkup, Event.words?]
  exact ⟨ok, rfl, markup, rfl,
    (ssml_between ok List.mem_cons_self rfl rfl markup Segment.language).1⟩

/-- **A dial at level 0 glues two texts.**  They stand in one segment, the dial opens a style in
which nothing is set between them, and what is written for the second follows on the first. -/
theorem rate_glues_texts :
    let xs := [.text "One", .turn .rate 0, .text "two"]
    let s : Segment := { events := [.text "One", .opening (.style {}), .text "two",
      .closing (.style {})] }
    (compile (.scripted [] 0) xs).result = .ok [s] ∧ s.interactive = none ∧
      s.ssml Segment.language = .ok ((Piece.startTag (Segment.speak Segment.language)).written ++
        Text.escaped "One" ++ Text.escaped "two" ++ (Piece.endTag "speak").written) ∧
      s.text = "One two" :=
  ⟨rfl, rfl, rfl, rfl⟩

end Recital
