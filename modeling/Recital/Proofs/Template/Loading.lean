/-
# What comes of a document

A document is loaded as a template, or it is said what is wrong with it, unless it goes beyond a
limit of the reader (`loaded_or_said_iff`).  How many containers may be inside each other is
given by the room that there is where the document is read:

| what is wrong | what comes of it |
| --- | --- |
| the text is no JSON | said, with its place |
| the value is no object | said |
| a key is empty | said |
| a container too deep, where a value is due | beyond a limit |
| an integer of too many digits, where a value is due | beyond a limit |

Whatever else is wrong with a document that goes beyond a limit stands behind the place where it
does.  On the command line, what is said becomes a complaint about the option, and going beyond a
limit a failure.
-/

import Recital.Proofs.CommandLine.Halting
import Recital.Proofs.Json.Grammar
import Recital.Proofs.Source.Fetching

namespace Recital
namespace Template

open Json (HasMark TooMuch Limit lexemes)

variable {room : Nat} {document : String} {t : Template} {fault : Fault}

/-! ### Documents -/

/-- Whether a fault says what is wrong with a document. -/
def Fault.OfDocument : Fault → Prop
  | .malformed .. | .notAnObject | .emptyKey => True
  | _ => False

/-- Whether a document goes beyond a limit of the reader where a value is due. -/
def Beyond (room : Nat) (document : String) (limit : Limit) : Prop :=
  ¬ HasMark document.toList ∧ ∃ front l back stack, lexemes document.toList = front ++ l :: back ∧
    Json.Due room front stack ∧ TooMuch room stack.length l limit

/-- Only a fault of the reader comes from beyond a limit. -/
theorem load_eq_beyond_iff {limit : Limit} :
    load room document = .error (.beyond limit) ↔ Beyond room document limit := by
  rw [Beyond, ← Json.read_eq_beyond_iff, load]
  cases Json.read room document.toList with
  | error fault =>
    cases fault with
    | malformed complaint position => exact iff_of_false (fun h => nomatch h) fun h => nomatch h
    | beyond other =>
      constructor
      · rintro ⟨⟩
        rfl
      · rintro ⟨⟩
        rfl
  | ok v =>
    refine iff_of_false (fun h => ?_) fun h => nomatch h
    cases v with
    | object members =>
      dsimp only at h
      split at h <;> cases h
    | _ => cases h

/-- **A document is a template** if it spells an object none of whose keys is empty. -/
theorem load_eq_ok_iff :
    load room document = .ok t ↔ ¬ HasMark document.toList ∧
      Json.Spells room 0 (lexemes document.toList) (.object t.members) ∧
      ∀ m ∈ t.members, m.1 ≠ [] := by
  rw [← and_assoc, ← Json.read_eq_ok_iff, load]
  cases Json.read room document.toList with
  | error fault =>
    refine iff_of_false (fun h => ?_) fun h => nomatch h.1
    cases fault <;> cases h
  | ok v =>
    cases v with
    | object members =>
      have keyed : (members.any fun m => m.1.isEmpty) = false ↔ ∀ m ∈ members, m.1 ≠ [] := by
        simp [List.any_eq_false]
      dsimp only
      split
      · next unkeyed =>
        refine iff_of_false (fun h => nomatch h) ?_
        rintro ⟨⟨⟩, full⟩
        rw [keyed.2 full] at unkeyed
        cases unkeyed
      · next full =>
        constructor
        · rintro ⟨⟩
          exact ⟨rfl, keyed.1 (Bool.eq_false_iff.2 full)⟩
        · rintro ⟨⟨⟩, -⟩
          rfl
    | _ => exact iff_of_false (fun h => nomatch h) fun h => nomatch h.1

/-- What is wrong with a document is said, or it goes beyond a limit. -/
theorem ofDocument_or_beyond (h : load room document = .error fault) :
    fault.OfDocument ∨ ∃ limit, fault = .beyond limit := by
  rw [load] at h
  cases read : Json.read room document.toList with
  | error problem =>
    rw [read] at h
    cases problem with
    | malformed complaint position =>
      cases h
      exact .inl trivial
    | beyond limit =>
      cases h
      exact .inr ⟨limit, rfl⟩
  | ok v =>
    rw [read] at h
    cases v with
    | object members =>
      dsimp only at h
      split at h
      · cases h
        exact .inl trivial
      · cases h
    | _ =>
      cases h
      exact .inl trivial

/-- A document is loaded, or it is said what is wrong with it, exactly as long as it goes beyond
no limit. -/
theorem loaded_or_said_iff :
    ((∃ t, load room document = .ok t ∧ ∀ m ∈ t.members, m.1 ≠ []) ∨
      ∃ fault, load room document = .error fault ∧ fault.OfDocument) ↔
      ¬ ∃ limit, Beyond room document limit := by
  cases result : load room document with
  | ok t =>
    refine iff_of_true (.inl ⟨t, rfl, (load_eq_ok_iff.1 result).2.2⟩) ?_
    rintro ⟨limit, beyond⟩
    cases result.symm.trans (load_eq_beyond_iff.2 beyond)
  | error fault =>
    rcases ofDocument_or_beyond result with said | ⟨limit, rfl⟩
    · refine iff_of_true (.inr ⟨fault, rfl, said⟩) ?_
      rintro ⟨limit, beyond⟩
      cases result.symm.trans (load_eq_beyond_iff.2 beyond)
      exact said
    · refine iff_of_false ?_ (not_not.2 ⟨limit, load_eq_beyond_iff.1 result⟩)
      rintro (⟨t, ⟨⟩, -⟩ | ⟨fault, ⟨⟩, said⟩)
      exact said

/-! ### Nested brackets -/

theorem lexemes_brackets (n : Nat) :
    lexemes (List.replicate n '[') = List.replicate n (.opening .array) := by
  have anywhere : ∀ position, (Json.tokensFrom position 0 (List.replicate n '[')).map
      Json.Token.lexeme = List.replicate n (.opening .array) := by
    induction n with
    | zero => exact fun _ => rfl
    | succ n ih =>
      exact fun position => congrArg (Json.Lexeme.opening .array :: ·) (ih (position + 1))
  exact anywhere 0

theorem due_brackets {n : Nat} (fits : n ≤ room) :
    Json.Due room (List.replicate n (.opening .array)) (List.replicate n (.array [])) := by
  induction n with
  | zero => exact .start
  | succ n ih =>
    rw [List.replicate_succ', List.replicate_succ]
    refine .inside (ih (Nat.le_of_succ_le fits)) ?_ .array
    rw [List.length_replicate]
    exact fits

/-- **Brackets that are opened too often** go beyond the limit for containers. -/
theorem beyond_brackets {n : Nat} (deep : room < n) :
    Beyond room (String.ofList (List.replicate n '[')) (.depth .array) := by
  obtain ⟨more, rfl⟩ := Nat.exists_eq_add_of_le deep
  have split : List.replicate (room + 1 + more) (Json.Lexeme.opening .array) =
      List.replicate room (.opening .array) ++
        .opening .array :: List.replicate more (.opening .array) := by
    rw [Nat.add_assoc, List.replicate_add, Nat.add_comm 1, List.replicate_succ]
  have plain : ¬ HasMark (List.replicate (room + 1 + more) '[') := by
    rw [HasMark, List.head?_replicate, if_neg (by omega)]
    decide
  rw [Beyond, String.toList_ofList, lexemes_brackets]
  have full : room ≤ (List.replicate room (Json.Frame.array [])).length :=
    Nat.le_of_eq (List.length_replicate ..).symm
  exact ⟨plain, _, _, _, _, split, due_brackets (Nat.le_refl _), .depth full⟩

end Template

/-! ### Documents on the command line -/

namespace CommandLine

variable {s : Surroundings} {location document : String} {fault : Template.Fault}

/-- What a document that is no template means for the option with its location. -/
def refused (location : String) : Template.Fault → Halt
  | .beyond limit => .failure (.limit limit)
  | fault => .complaint (.unsuitable .template (.template location fault))

theorem refused_of_said (said : fault.OfDocument) (location : String) :
    refused location fault = .complaint (.unsuitable .template (.template location fault)) := by
  cases fault <;> first | rfl | exact said.elim

/-- A document that is no template ends the work of the option with its location. -/
theorem halts_of_document (read : (Source.fetch s.disk s.web location).1 = .ok document)
    (failed : Template.load s.room document = .error fault) :
    Flag.template.Halts s location (refused location fault)
      (Source.fetch s.disk s.web location).2 := by
  intro p
  refine (ExceptT.run_bind_of_ok (run_fetch_of_ok read .template p)).trans ?_
  rw [failed]
  cases fault <;> rfl

end CommandLine

namespace Session

open CommandLine

/-- **Documents that are no templates.**  A document is loaded as a template without empty keys,
or it is said what is wrong with it, exactly as long as it goes beyond no limit.  On the command
line it is complained about then, with its location and what is wrong with it, and the exit code
is 2; a document beyond a limit ends the session with a failure. -/
theorem document_said_iff (w : World) (document : String) :
    ((∃ t, Template.load w.depth document = .ok t ∧ ∀ m ∈ t.members, m.1 ≠ []) ∨
      (∃ fault, Template.load w.depth document = .error fault ∧ fault.OfDocument) ↔
      ¬ ∃ limit, Template.Beyond w.depth document limit) ∧
    ∀ fault, Template.load w.depth document = .error fault →
      ∀ (location word : String) (given : List String),
        (Source.fetch w.disk w.web location).1 = .ok document →
        word ∈ Flag.template.spellings → location ≠ "--" →
        given = [word, location] ∨ given = [word ++ "=" ++ location] →
      ∀ (items : List Item) (back : List String) (early : Request) (catalog : Catalog)
        (notices : List Notice),
        readEarly (items.flatMap Item.words ++ (given ++ back)) = .ok early →
        loadCatalog w early.onlineVoices = (.ok catalog, notices) →
        let report := run w (items.flatMap Item.words ++ (given ++ back))
        ((¬ ∃ limit, Template.Beyond w.depth document limit) → report.ending = .ok 2 ∧
          report.errors = noticeText early.verbose notices ++
            complaintText usageLines (.unsuitable .template (.template location fault))) ∧
        ∀ limit, Template.Beyond w.depth document limit →
          report.ending = .error (.reading (.limit limit)) := by
  refine ⟨Template.loaded_or_said_iff, ?_⟩
  intro fault failed location word given fetched spells kept form items back early catalog notices
    glance loaded
  have halts : Flag.template.Halts (surroundings w catalog) location (refused location fault)
      (Source.fetch w.disk w.web location).2 := halts_of_document fetched failed
  obtain ⟨request, ended⟩ := read_halted items spells rfl kept form halts back
  constructor
  · intro within
    have said : fault.OfDocument := by
      refine (Template.ofDocument_or_beyond failed).resolve_right ?_
      rintro ⟨limit, rfl⟩
      exact within ⟨limit, Template.load_eq_beyond_iff.1 failed⟩
    rw [refused_of_said said] at ended
    have ending := run_of_complaint glance loaded ended
    rwa [List.append_nil] at ending
  · intro limit beyond
    cases failed.symm.trans (Template.load_eq_beyond_iff.2 beyond)
    exact run_of_failure glance loaded ended

/-- A list is no template, and that is said. -/
theorem list_document_said :
    let w : World :=
      { disk := { files := [(["t.json"], [0x5B, 0x5D])] }, depth := 980, clock := "" }
    let report := run w ["--template", "t.json"]
    report.ending = .ok 2 ∧ report.errors = complaintText usageLines
      (.unsuitable .template (.template "t.json" .notAnObject)) := by
  intro w report
  have fetched : (Source.fetch w.disk w.web "t.json").1 = .ok "[]" := by decide +kernel
  have failed : Template.load w.depth "[]" = .error .notAnObject := rfl
  have within : ¬ ∃ limit, Template.Beyond w.depth "[]" limit :=
    Template.loaded_or_said_iff.1 (.inr ⟨_, failed, trivial⟩)
  have glance : readEarly (([] : List Item).flatMap Item.words ++
      (["--template", "t.json"] ++ [])) = .ok {} := by rfl
  have loaded : loadCatalog w ({} : Request).onlineVoices = (.ok Catalog.builtIn, []) := rfl
  obtain ⟨ending, errors⟩ := ((document_said_iff w "[]").2 _ failed "t.json" "--template" _ fetched
    (by decide) (by decide) (.inl rfl) [] [] {} Catalog.builtIn [] glance loaded).1 within
  exact ⟨ending, errors.trans (List.nil_append _)⟩

theorem unifyNewlines_brackets (n : Nat) :
    Text.unifyNewlines (List.replicate n '[') = List.replicate n '[' := by
  induction n with
  | zero => rfl
  | succ n ih => exact congrArg ('[' :: ·) ih

/-- A file of 2000 opening brackets is read where there is room for 980 containers, and what is
wrong with it is not said: the session fails. -/
theorem nested_document_escapes :
    let w : World :=
      { disk := { files := [(["t.json"], List.replicate 2000 0x5B)] }, depth := 980, clock := "" }
    let document := String.ofList (List.replicate 2000 '[')
    (Source.fetch w.disk w.web "t.json").1 = .ok document ∧
      Template.load w.depth document = .error (.beyond (.depth .array)) ∧
      (run w ["--template", "t.json"]).ending = .error (.reading (.limit (.depth .array))) := by
  intro w document
  have kind : Source.isAddress "t.json" = .ok false := by decide +kernel
  have there : w.disk.lookUp "t.json" = .ok (["t.json"], .file (List.replicate 2000 0x5B)) := rfl
  have decoded : Text.Utf8.decode (List.replicate 2000 0x5B) = .ok (List.replicate 2000 '[') := by
    have bytes : String.utf8EncodeChar '[' = [0x5B] := by decide
    rw [Text.Utf8.decode_eq_ok_iff, List.flatMap_replicate, bytes,
      List.flatten_replicate_singleton]
  have fetched : (Source.fetch w.disk w.web "t.json").1 = .ok document := by
    rw [Source.fetch, kind]
    dsimp only
    rw [Source.readFile_of_file (by decide) there, decoded]
    exact congrArg (fun cs => Except.ok (String.ofList cs)) (unifyNewlines_brackets 2000)
  have failed : Template.load w.depth document = .error (.beyond (.depth .array)) :=
    Template.load_eq_beyond_iff.2 (Template.beyond_brackets (by decide : (980 : Nat) < 2000))
  have halts : Flag.template.Halts (surroundings w Catalog.builtIn) "t.json"
      (refused "t.json" (.beyond (.depth .array))) _ := halts_of_document fetched failed
  have spells : "--template" ∈ Flag.template.spellings := by decide
  have glance : readEarly ["--template", "t.json"] = .ok {} := by rfl
  have loaded : loadCatalog w ({} : Request).onlineVoices = (.ok Catalog.builtIn, []) := rfl
  obtain ⟨request, ended⟩ := read_halted [] spells rfl (by decide) (.inl rfl) halts []
  exact ⟨fetched, failed, run_of_failure glance loaded ended⟩

end Session
end Recital
