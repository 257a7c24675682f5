/-
# How words fall into place

Where all steps of a command line are options that were given, each of its words has one of
these places (`Placed`), and no other (`Placed.steps_eq`):

| words | steps |
| --- | --- |
| a lone `--`, and all words behind it | a text each |
| a word without a dash in front | a text |
| an option with a value, and the next word | the option with that word |
| options in one word, the last one complete | all of them |
| options in one word, the last one without its value, and the next word | all of them |

The last place is a narrow one: a word comes to an option that stands last among others in its
word only if it has a dash in front and is no option even so, such as `-5`.
-/

import Recital.Proofs.CommandLine.Following
import Recital.Proofs.CommandLine.Spelling

namespace Recital
namespace CommandLine

variable {f last : Flag} {known : List Flag} {word value : String} {words : List String}
  {here bundled : List Step} {step : Step}

/-! ### The options of a word -/

/-- The option that a word is read as, alone or with more in its word. -/
def Word.flag? : Word → Option Flag
  | .flag f => some f
  | .attached f .. => some f
  | _ => none

/-- The steps of a word: those that are complete, and the option whose value is to come. -/
def Word.steps (known : List Flag) : Word → Except Step (List Step × Option Flag)
  | .flag f => .ok (if f.takesValue then ([], some f) else ([.given f none], none))
  | .attached f isShort cs =>
    match flagsOf known f isShort cs with
    | .error step => .error step
    | .ok (bundled, last, some value) => .ok (bundled ++ [.given last (some value)], none)
    | .ok (bundled, last, none) =>
      .ok (if last.takesValue then (bundled, some last) else (bundled ++ [.given last none], none))
  | _ => .ok ([], none)

/-- What is wrong with a word is a value that its option does not take. -/
theorem unbundle_error {cs : List Char} (h : unbundle known f cs = .error step) :
    ∃ g value, step = .needlessValue g value := by
  induction cs generalizing f with
  | nil =>
    rw [unbundle] at h
    split at h
    · cases h
    · cases h
      exact ⟨_, _, rfl⟩
  | cons c cs ih =>
    rw [unbundle] at h
    split at h
    · cases h
    · split at h
      · cases h
        exact ⟨_, _, rfl⟩
      · next g _ =>
        split at h
        · cases h
        · split at h
          · next found =>
            cases h
            exact ih found
          · cases h

theorem Word.steps_error {w : Word} (h : w.steps known = .error step) :
    ∃ g value, step = .needlessValue g value := by
  cases w with
  | attached g isShort cs =>
    rw [Word.steps] at h
    split at h
    · next found =>
      cases h
      rw [flagsOf] at found
      split at found
      · exact unbundle_error found
      · split at found
        · cases found
        · cases found
          exact ⟨_, _, rfl⟩
    · cases h
    · cases h
  | _ => cases h

theorem Word.read_ne_marker (noMarker : word ≠ "--") : Word.read known word ≠ .marker := by
  intro same
  rw [Word.read, if_neg noMarker] at same
  split at same
  · split at same
    · cases same
    · split at same
      · cases same
      · rw [Word.ofDashed] at same
        split at same
        · cases same
        · split at same
          · cases same
          · split at same <;> cases same
  · cases same

/-- A word that is read as an option has a dash in front. -/
theorem Word.dash_of_flag? (option : (Word.read known word).flag? = some f) :
    word.toList.head? = some '-' := by
  by_contra noDash
  rw [Word.read_bare fun c cs shape => noDash (by rw [shape]; rfl)] at option
  cases option

/-- A word that is read as an option becomes its steps, whatever words follow. -/
theorem stepsFrom_option (option : (Word.read known word).flag? = some f) :
    stepsFrom known none (word :: words) = match (Word.read known word).steps known with
      | .error step => [step]
      | .ok (here, none) => here ++ stepsFrom known none words
      | .ok (here, some last) => stepsFrom known (some (here, last)) words := by
  rw [stepsFrom]
  cases shape : Word.read known word with
  | flag g =>
    dsimp only [Word.steps]
    by_cases takes : g.takesValue = true
    · rw [if_pos takes, if_pos takes]
    · rw [if_neg takes, if_neg takes]
      rfl
  | attached g isShort cs =>
    dsimp only [Word.steps]
    cases flagsOf known g isShort cs with
    | error step => rfl
    | ok found =>
      obtain ⟨bundled, last, value⟩ := found
      cases value with
      | some value => simp
      | none =>
        dsimp only
        by_cases takes : last.takesValue = true
        · rw [if_pos takes, if_pos takes]
        · rw [if_neg takes, if_neg takes]
          simp
  | _ =>
    rw [shape] at option
    cases option

/-- A word that is read as no option is left over. -/
theorem stepsFrom_extra (noMarker : word ≠ "--")
    (noOption : (Word.read known word).flag? = none) :
    stepsFrom known none (word :: words) = .extra word :: stepsFrom known none words := by
  rw [stepsFrom]
  cases shape : Word.read known word with
  | marker => exact absurd shape (Word.read_ne_marker noMarker)
  | plain => rfl
  | unknown => rfl
  | flag g =>
    rw [shape] at noOption
    cases noOption
  | attached g isShort cs =>
    rw [shape] at noOption
    cases noOption

/-- Where an option waits for its value, only a word that looks like none passes. -/
theorem stepsFrom_waiting_passes (h : ∀ step ∈ stepsFrom known (some (bundled, last))
      (word :: words), step.Passes) :
    Word.read known word = .plain ∧ stepsFrom known (some (bundled, last)) (word :: words) =
      bundled ++ .given last (some word) :: stepsFrom known none words := by
  rw [stepsFrom] at h ⊢
  cases shape : Word.read known word with
  | plain => exact ⟨rfl, rfl⟩
  | _ =>
    rw [shape] at h
    exact (h _ (List.mem_singleton.2 rfl)).elim

/-! ### The places of words -/

/-- How the words of a command line fall into place, and the steps they become. -/
inductive Placed : List String → List Step → Prop where
  | nil : Placed [] []
  | marker (words : List String) :
      Placed ("--" :: words) (words.map fun word => .given .text (some word))
  | bare {word : String} {words : List String} {steps : List Step}
      (noDash : word.toList.head? ≠ some '-') (rest : Placed words steps) :
      Placed (word :: words) (.given .text (some word) :: steps)
  | value {f : Flag} {word value : String} {words : List String} {steps : List Step}
      (spells : word ∈ f.spellings) (takes : f.takesValue = true) (rest : Placed words steps) :
      Placed (word :: value :: words) (.given f (some value) :: steps)
  | options {f : Flag} {word : String} {words : List String} {here steps : List Step}
      (noMarker : word ≠ "--") (noValue : valueFlag? word = none)
      (option : (Word.read Flag.all word).flag? = some f)
      (becomes : (Word.read Flag.all word).steps Flag.all = .ok (here, none))
      (rest : Placed words steps) : Placed (word :: words) (here ++ steps)
  | bundle {f last : Flag} {word value : String} {words : List String} {here steps : List Step}
      (noMarker : word ≠ "--") (noValue : valueFlag? word = none)
      (option : (Word.read Flag.all word).flag? = some f)
      (becomes : (Word.read Flag.all word).steps Flag.all = .ok (here, some last))
      (plain : Word.read Flag.all value = .plain)
      (stays : promoteFrom none (value :: words) = value :: promoteFrom none words)
      (rest : Placed words steps) :
      Placed (word :: value :: words) (here ++ .given last (some value) :: steps)

/-- The word that comes to a waiting option has a dash in front. -/
theorem waiting_passes (h : ∀ step ∈ stepsFrom Flag.all (some (bundled, last))
      (promoteFrom none words), step.Passes) :
    ∃ value rest, words = value :: rest ∧ Word.read Flag.all value = .plain ∧
      promoteFrom none words = value :: promoteFrom none rest := by
  have attached (f : Flag) (value : String) (rest : List String)
      (h : ∀ step ∈ stepsFrom Flag.all (some (bundled, last)) (attach f value :: rest),
        step.Passes) : False := by
    have plain := (stepsFrom_waiting_passes h).1
    rw [attach, Word.read_attached f.long_mem_spellings] at plain
    cases plain
  cases words with
  | nil => exact (h _ (List.mem_singleton.2 rfl)).elim
  | cons word words =>
    rcases promoteFrom_cases word words with ⟨rfl, promoted⟩ | ⟨-, promoted⟩ | ⟨-, -, promoted⟩ |
        ⟨f, -, -, ⟨rfl, promoted⟩ | ⟨value, rest, rfl, promoted⟩⟩ <;> rw [promoted] at h
    · cases words with
      | nil => exact (h _ (List.mem_singleton.2 rfl)).elim
      | cons word words => exact (attached _ _ _ h).elim
    · exact (attached _ _ _ h).elim
    · exact ⟨word, words, rfl, (stepsFrom_waiting_passes h).1, promoted⟩
    · have plain := (stepsFrom_waiting_passes h).1
      rw [Word.read_spelling f.long_mem_spellings] at plain
      cases plain
    · exact (attached _ _ _ h).elim

/-- A word that is kept as it is becomes options where all steps are options that were given:
they are complete, or the last of them takes the next word. -/
theorem stepsFrom_kept_passes (noMarker : word ≠ "--")
    (h : ∀ step ∈ stepsFrom Flag.all none (word :: promoteFrom none words), step.Passes) :
    ∃ f here, (Word.read Flag.all word).flag? = some f ∧
      (((Word.read Flag.all word).steps Flag.all = .ok (here, none) ∧
          stepsFrom Flag.all none (word :: promoteFrom none words) =
            here ++ stepsFrom Flag.all none (promoteFrom none words)) ∨
        ∃ last value rest, words = value :: rest ∧
          (Word.read Flag.all word).steps Flag.all = .ok (here, some last) ∧
          Word.read Flag.all value = .plain ∧
          promoteFrom none (value :: rest) = value :: promoteFrom none rest ∧
          stepsFrom Flag.all none (word :: promoteFrom none words) =
            here ++
              .given last (some value) :: stepsFrom Flag.all none (promoteFrom none rest)) := by
  cases option : (Word.read Flag.all word).flag? with
  | none =>
    rw [stepsFrom_extra noMarker option] at h
    exact (h _ List.mem_cons_self).elim
  | some f =>
    rw [stepsFrom_option option] at h ⊢
    cases becomes : (Word.read Flag.all word).steps Flag.all with
    | error step =>
      rw [becomes] at h
      obtain ⟨g, value, rfl⟩ := Word.steps_error becomes
      exact (h _ (List.mem_singleton.2 rfl)).elim
    | ok found =>
      obtain ⟨here, last?⟩ := found
      rw [becomes] at h
      cases last? with
      | none => exact ⟨f, here, rfl, .inl ⟨rfl, rfl⟩⟩
      | some last =>
        obtain ⟨value, rest, rfl, plain, promoted⟩ := waiting_passes h
        rw [promoted] at h ⊢
        exact ⟨f, here, rfl,
          .inr ⟨last, value, rest, rfl, rfl, plain, promoted, (stepsFrom_waiting_passes h).2⟩⟩

/-- **Words whose steps are all options that were given have fallen into place.**  The
induction is on the number of words, as an option takes the next word with it. -/
theorem placed_of_passes (words : List String)
    (h : ∀ step ∈ stepsFrom Flag.all none (promoteFrom none words), step.Passes) :
    Placed words (stepsFrom Flag.all none (promoteFrom none words)) := by
  induction size : words.length using Nat.strongRecOn generalizing words with
  | ind n ih =>
    subst size
    cases words with
    | nil => exact .nil
    | cons word words =>
      have one : words.length < (word :: words).length := Nat.lt_succ_self _
      have two {value : String} {rest : List String} (same : words = value :: rest) :
          rest.length < (word :: words).length := by
        rw [same, List.length_cons, List.length_cons]
        omega
      rcases promoteFrom_cases word words with ⟨rfl, promoted⟩ | ⟨bare, promoted⟩ |
          ⟨marker, noValue, promoted⟩ |
          ⟨f, spells, takes, ⟨rfl, promoted⟩ | ⟨value, rest, same, promoted⟩⟩ <;>
        rw [promoted] at h ⊢
      · rw [stepsFrom_map_attach]
        exact .marker words
      · rw [stepsFrom_attach rfl] at h ⊢
        exact .bare bare (ih _ one words (List.forall_mem_cons.1 h).2 rfl)
      · obtain ⟨f, here, option, ⟨becomes, steps⟩ |
            ⟨last, value, rest, same, becomes, plain, stays, steps⟩⟩ :=
              stepsFrom_kept_passes marker h <;>
          rw [steps] at h ⊢
        · have placed := ih _ one words (List.forall_mem_append.1 h).2 rfl
          exact .options marker noValue option becomes placed
        · have later := (List.forall_mem_cons.1 (List.forall_mem_append.1 h).2).2
          have placed := ih _ (two same) rest later rfl
          subst same
          exact .bundle marker noValue option becomes plain stays placed
      · rw [stepsFrom, Word.read_spelling f.long_mem_spellings] at h
        dsimp only at h
        rw [if_pos takes] at h
        exact (h _ (List.mem_singleton.2 rfl)).elim
      · rw [stepsFrom_attach takes] at h ⊢
        have placed := ih _ (two same) rest (List.forall_mem_cons.1 h).2 rfl
        subst same
        exact .value spells takes placed

/-- The steps of a command line where all options are known. -/
def fullSteps (words : List String) : List Step := steps Flag.all (promote words)

/-- Words fall into place in one way only: as they are read. -/
theorem Placed.steps_eq {steps : List Step} (h : Placed words steps) :
    steps = fullSteps words := by
  rw [fullSteps, CommandLine.steps, promote]
  induction h with
  | nil => rfl
  | marker words => rw [promoteFrom_marker, stepsFrom_map_attach]
  | bare noDash rest ih => rw [promoteFrom_bare noDash, stepsFrom_attach rfl, ih]
  | value spells takes rest ih => rw [promoteFrom_value spells takes, stepsFrom_attach takes, ih]
  | options noMarker noValue option becomes rest ih =>
    rw [promoteFrom_dashed (Word.dash_of_flag? option) noMarker noValue, stepsFrom_option option,
      becomes, ih]
  | bundle noMarker noValue option becomes plain stays rest ih =>
    rw [promoteFrom_dashed (Word.dash_of_flag? option) noMarker noValue, stepsFrom_option option,
      becomes, stays, ih]
    dsimp only
    rw [stepsFrom, plain]

end CommandLine
end Recital
