/-
# The early options and the whole command line

The early options are looked for in the words as they came; the whole command line is read
after promotion, with all options known.  Where the whole command line is accepted, the two
differ in these words only:

| word | full reading | early reading |
| --- | --- | --- |
| a value that looks like an early option, such as `-v` | a value | the option |
| a value with more behind an early option, such as `-vx` | a value | a fault |
| an early option bundled with others, such as `-vtx` | all of them | a fault |
| an early option behind a value that is `--` | the option | a word behind the marker |

So the early pass may refuse a command line that is in order, take a value for an option that
nobody gave, or miss an option that was given (`readEarly_of_accepted`).  The two agree exactly
if nothing is refused, each option taken from a value was given anyway, and each option missed
was given before as well (`readEarly_agrees_iff`); and they do agree where nothing but an early
option itself begins like one and no value is `--` (`exists_readEarly_of_fronts`).
-/

import Recital.Proofs.CommandLine.Glance

namespace Recital
namespace CommandLine

/-- The words that may be options: those before the first `--`. -/
def optionWords (words : List String) : List String := words.takeWhile (· != "--")

/-- The words that come to an option as its value.  `expecting` says whether the next one
does. -/
def valuesFrom (expecting : Bool) : List String → List String
  | [] => []
  | word :: words =>
    if expecting then word :: valuesFrom false words
    else valuesFrom (valueFlag? word).isSome words

/-- The words before the first `--` that are values of options. -/
def values (words : List String) : List String := valuesFrom false (optionWords words)

/-- The words behind the first `--`, if that comes to an option as its value.  `expecting` says
whether the next word does. -/
def hiddenFrom (expecting : Bool) : List String → List String
  | [] => []
  | word :: words =>
    if word = "--" then if expecting then words else []
    else hiddenFrom (!expecting && (valueFlag? word).isSome) words

/-- The words of a command line that are options behind the first `--` all the same, as it is
the value of an option. -/
def hidden (words : List String) : List String := hiddenFrom false words

variable {e f : Flag} {word value : String} {words : List String} {steps : List Step}

/-! ### Which words are values -/

theorem optionWords_cons (noMarker : word ≠ "--") :
    optionWords (word :: words) = word :: optionWords words :=
  List.takeWhile_cons_of_pos (bne_iff_ne.2 noMarker)

theorem optionWords_marker : optionWords ("--" :: words) = [] :=
  List.takeWhile_cons_of_neg (by simp)

theorem values_cons (noMarker : word ≠ "--") (noValue : valueFlag? word = none) :
    values (word :: words) = values words := by
  rw [values, optionWords_cons noMarker, valuesFrom, if_neg Bool.false_ne_true, noValue]
  rfl

theorem values_value (spells : word ∈ f.spellings) (takes : f.takesValue = true)
    (kept : value ≠ "--") : values (word :: value :: words) = value :: values words := by
  obtain ⟨_, _, _, _, noMarker⟩ := Flag.spelling_shape spells
  rw [values, optionWords_cons noMarker, optionWords_cons kept, valuesFrom,
    if_neg Bool.false_ne_true, valueFlag?_eq_some.2 ⟨spells, takes⟩]
  rfl

theorem values_marker : values ("--" :: words) = [] := by
  rw [values, optionWords_marker]
  rfl

/-- No value stands before a value that is `--` but those of the words before. -/
theorem values_lost (noMarker : word ≠ "--") : values (word :: "--" :: words) = [] := by
  rw [values, optionWords_cons noMarker, optionWords_marker, valuesFrom,
    if_neg Bool.false_ne_true]
  rfl

theorem valuesFrom_subset (expecting : Bool) (words : List String) :
    valuesFrom expecting words ⊆ words := by
  induction words generalizing expecting with
  | nil => exact List.Subset.refl _
  | cons word words ih =>
    rw [valuesFrom]
    split
    · exact List.cons_subset_cons _ (ih _)
    · exact List.subset_cons_of_subset _ (ih _)

/-- A value before the first `--` is one of the words there. -/
theorem values_subset (words : List String) : values words ⊆ optionWords words :=
  valuesFrom_subset false _

theorem hidden_cons (noMarker : word ≠ "--") (noValue : valueFlag? word = none) :
    hidden (word :: words) = hidden words := by
  rw [hidden, hiddenFrom, if_neg noMarker, noValue]
  rfl

theorem hidden_value (spells : word ∈ f.spellings) (takes : f.takesValue = true)
    (kept : value ≠ "--") : hidden (word :: value :: words) = hidden words := by
  obtain ⟨_, _, _, _, noMarker⟩ := Flag.spelling_shape spells
  rw [hidden, hiddenFrom, if_neg noMarker, valueFlag?_eq_some.2 ⟨spells, takes⟩, hiddenFrom,
    if_neg kept]
  rfl

theorem hidden_lost (spells : word ∈ f.spellings) (takes : f.takesValue = true) :
    hidden (word :: "--" :: words) = words := by
  obtain ⟨_, _, _, _, noMarker⟩ := Flag.spelling_shape spells
  rw [hidden, hiddenFrom, if_neg noMarker, valueFlag?_eq_some.2 ⟨spells, takes⟩, hiddenFrom,
    if_pos rfl]
  rfl

theorem hidden_marker : hidden ("--" :: words) = [] := rfl

/-! ### What early reading hears -/

theorem not_heard_of_bare (bare : word.toList.head? ≠ some '-') : ¬ Heard e word := by
  refine not_heard_of_flag? ?_
  rw [Word.read_bare fun c cs shape => bare (by rw [shape]; rfl)]
  rfl

theorem not_heard_of_late (spells : word ∈ f.spellings) (late : f ∉ Flag.early) :
    ¬ Heard e word := by
  refine not_heard_of_flag? ?_
  rcases Word.read_early word with same | ⟨none, -⟩
  · have heard : (Word.read Flag.early word).flag? = some f := by
      rw [same, Word.read_spelling spells]
      rfl
    exact absurd (Word.mem_early_of_read heard) late
  · exact none

/-- **Where words have fallen into place**, what early reading hears of an early option, or misses
behind a value that is `--`, is what is given, and what it takes for the option among the
values. -/
theorem Placed.heard_iff (h : Placed words steps) (passes : ∀ step ∈ steps, step.Passes)
    (clear : ∀ word ∈ optionWords words, ¬ Garbled word) (isEarly : e ∈ Flag.early) :
    (∃ word ∈ optionWords words, Heard e word) ∨ Gives e (fullSteps (hidden words)) ↔
      Gives e steps ∨ ∃ value ∈ values words, Heard e value := by
  have other {f : Flag} (takes : f.takesValue = true) : f ≠ e := by
    rintro rfl
    rw [Flag.takesValue_of_mem_early isEarly] at takes
    cases takes
  induction h with
  | nil => simp [optionWords, values, valuesFrom, hidden, hiddenFrom, fullSteps, promote,
      promoteFrom, CommandLine.steps, stepsFrom]
  | marker words =>
    have absent : ¬ Gives e (words.map fun word => .given .text (some word)) := by
      rintro ⟨value, mem⟩
      obtain ⟨word, _, same⟩ := List.mem_map.1 mem
      exact other rfl (Step.given.inj same).1
    have nothing : ¬ Gives e (fullSteps []) := not_gives_nil
    simp [optionWords_marker, values_marker, hidden_marker, absent, nothing]
  | @bare word words steps noDash rest ih =>
    have noMarker := ne_marker_of_bare noDash
    have noValue := valueFlag?_of_bare noDash
    rw [optionWords_cons noMarker] at clear ⊢
    rw [values_cons noMarker noValue, hidden_cons noMarker noValue, gives_cons,
      or_iff_right (other rfl)]
    have later := ih (List.forall_mem_cons.1 passes).2 (List.forall_mem_cons.1 clear).2
    simp only [List.mem_cons, exists_eq_or_imp, or_iff_right (not_heard_of_bare noDash)]
    exact later
  | @value f word value words steps spells takes rest ih =>
    obtain ⟨_, _, _, _, noMarker⟩ := Flag.spelling_shape spells
    have late : f ∉ Flag.early := fun mem => by
      rw [Flag.takesValue_of_mem_early mem] at takes
      cases takes
    rw [optionWords_cons noMarker] at clear ⊢
    rw [gives_cons, or_iff_right (other takes)]
    by_cases lost : value = "--"
    · subst lost
      rw [optionWords_marker, values_lost noMarker, hidden_lost spells takes, rest.steps_eq]
      simp only [List.mem_singleton, exists_eq_left, List.not_mem_nil, false_and, exists_false,
        or_false, or_iff_right (not_heard_of_late spells late)]
    rw [optionWords_cons lost] at clear ⊢
    rw [values_value spells takes lost, hidden_value spells takes lost]
    have later := ih (List.forall_mem_cons.1 passes).2
      (List.forall_mem_cons.1 (List.forall_mem_cons.1 clear).2).2
    simp only [List.mem_cons, exists_eq_or_imp, or_iff_right (not_heard_of_late spells late)]
    rw [or_assoc, or_left_comm (a := Gives e steps)]
    exact or_congr_right later
  | @options f word words here steps noMarker noValue option becomes rest ih =>
    rw [optionWords_cons noMarker] at clear ⊢
    have passesHere := (List.forall_mem_append.1 passes).1
    have hear := CommandLine.heard_iff (List.forall_mem_cons.1 clear).1 becomes passesHere isEarly
    have later := ih (List.forall_mem_append.1 passes).2 (List.forall_mem_cons.1 clear).2
    rw [values_cons noMarker noValue, hidden_cons noMarker noValue, gives_append, or_assoc]
    simp only [List.mem_cons, exists_eq_or_imp]
    rw [or_assoc]
    exact or_congr hear later
  | bundle noMarker noValue option becomes plain stays rest ih =>
    rw [optionWords_cons noMarker] at clear
    have garbled := garbled_of_waiting noValue becomes fun step mem =>
      passes step (List.mem_append_left _ mem)
    exact absurd garbled (clear _ List.mem_cons_self)

/-! ### The early pass -/

/-- Whether steps are early options that were given. -/
def AllEarly (steps : List Step) : Prop :=
  ∀ step ∈ steps, ∃ g ∈ Flag.early, step = .given g none

/-- Whether a step is more than a word that is passed over. -/
def Step.isKnown : Step → Bool
  | .extra _ => false
  | _ => true

/-- The steps of early reading, without the words that are passed over. -/
def earlySteps (words : List String) : List Step :=
  (CommandLine.steps Flag.early words).filter Step.isKnown

theorem earlySteps_marker : earlySteps ("--" :: words) = [] := by
  rw [earlySteps, CommandLine.steps, stepsFrom, Word.read, if_pos rfl]
  simp [Step.isKnown]

/-- **Early reading of one word:** the word is garbled and reading ends there, or it becomes the
early options that are heard in it, of which there may be none. -/
theorem earlySteps_cons (noMarker : word ≠ "--") (words : List String) :
    (Garbled word ∧ ∃ f value, earlySteps (word :: words) = [.needlessValue f value]) ∨
    (¬ Garbled word ∧ ∃ here, AllEarly here ∧ (∀ e, Gives e here ↔ Heard e word) ∧
      earlySteps (word :: words) = here ++ earlySteps words) := by
  rw [earlySteps, earlySteps, CommandLine.steps, CommandLine.steps]
  cases option : (Word.read Flag.early word).flag? with
  | none =>
    have becomes : (Word.read Flag.early word).steps Flag.early = .ok ([], none) :=
      Word.steps_of_flag?_eq_none option
    refine .inr ⟨not_garbled_of_steps becomes, [], List.forall_mem_nil _,
      fun e => (heard_of_steps becomes).symm, ?_⟩
    rw [stepsFrom_extra noMarker option, List.filter_cons_of_neg Bool.false_ne_true]
    rfl
  | some f =>
    rw [stepsFrom_option option]
    cases becomes : (Word.read Flag.early word).steps Flag.early with
    | error step =>
      obtain ⟨g, value, rfl⟩ := Word.steps_error becomes
      exact .inl ⟨⟨_, becomes⟩, g, value, rfl⟩
    | ok found =>
      obtain ⟨here, last?⟩ := found
      obtain ⟨-, rfl, early⟩ := Word.steps_early (fun _ => Word.mem_early_of_read) becomes
      have whole : here.filter Step.isKnown = here := by
        refine List.filter_eq_self.2 fun step mem => ?_
        obtain ⟨g, -, rfl⟩ := early step mem
        rfl
      refine .inr ⟨not_garbled_of_steps becomes, here, early,
        fun e => (heard_of_steps becomes).symm, ?_⟩
      dsimp only
      rw [List.filter_append, whole]

/-- **Early reading of words:** early options up to a fault if a word is garbled, and otherwise
just the options that are heard. -/
theorem earlySteps_spec (words : List String) :
    ((∃ word ∈ optionWords words, Garbled word) ∧ ∃ before f value, AllEarly before ∧
      earlySteps words = before ++ [.needlessValue f value]) ∨
    ((∀ word ∈ optionWords words, ¬ Garbled word) ∧ AllEarly (earlySteps words) ∧
      ∀ e, Gives e (earlySteps words) ↔ ∃ word ∈ optionWords words, Heard e word) := by
  have nothing {words : List String} (steps : earlySteps words = [])
      (noWords : optionWords words = []) :
      (∀ word ∈ optionWords words, ¬ Garbled word) ∧ AllEarly (earlySteps words) ∧
        ∀ e, Gives e (earlySteps words) ↔ ∃ word ∈ optionWords words, Heard e word := by
    rw [steps, noWords]
    exact ⟨List.forall_mem_nil _, List.forall_mem_nil _,
      fun e => iff_of_false not_gives_nil (by simp)⟩
  induction words with
  | nil => exact .inr (nothing rfl rfl)
  | cons word words ih =>
    by_cases marker : word = "--"
    · subst marker
      exact .inr (nothing earlySteps_marker optionWords_marker)
    rw [optionWords_cons marker]
    rcases earlySteps_cons marker words with ⟨garbled, f, value, ends⟩ |
      ⟨clear, here, early, heard, goesOn⟩
    · exact .inl ⟨⟨word, List.mem_cons_self, garbled⟩, [], f, value, List.forall_mem_nil _, ends⟩
    rw [goesOn]
    rcases ih with ⟨⟨w, mem, garbled⟩, before, f, value, earlier, ends⟩ | ⟨others, later, hear⟩
    · refine .inl ⟨⟨w, List.mem_cons_of_mem _ mem, garbled⟩, here ++ before, f, value,
        List.forall_mem_append.2 ⟨early, earlier⟩, ?_⟩
      rw [ends, List.append_assoc]
    · refine .inr ⟨List.forall_mem_cons.2 ⟨clear, others⟩,
        List.forall_mem_append.2 ⟨early, later⟩, fun e => ?_⟩
      rw [gives_append, hear e, heard e, List.exists_mem_cons_iff]

theorem AllEarly.adds {s : Surroundings} (h : AllEarly steps) :
    List.Forall₂ (Step.Adds s) steps (steps.map fun _ => []) := by
  rw [List.forall₂_map_right_iff, List.forall₂_same]
  intro step mem p
  obtain ⟨g, isEarly, rfl⟩ := h step mem
  rcases List.mem_cons.1 isEarly with rfl | isEarly
  · exact ⟨_, rfl, (List.append_nil _).symm, List.Subset.refl _⟩
  · obtain rfl := List.mem_singleton.1 isEarly
    exact ⟨_, rfl, (List.append_nil _).symm, List.Subset.refl _⟩

theorem readEarly_eq (words : List String) :
    readEarly words =
      match ((useSteps {} (earlySteps words)).run {}).1 with
      | .ok request => .ok request
      | .error (.complaint complaint) => .error complaint
      | .error _ => .ok {} := rfl

/-- **What the early options are**: none if a word is garbled, and otherwise those that are
heard in the words before the first `--`. -/
theorem readEarly_spec (words : List String) :
    ((∃ word ∈ optionWords words, Garbled word) ∧
      ∃ complaint, readEarly words = .error complaint) ∨
    ((∀ word ∈ optionWords words, ¬ Garbled word) ∧
      ∃ early, readEarly words = .ok early ∧ ∀ e ∈ Flag.early,
        (early.has e = true ↔ ∃ word ∈ optionWords words, Heard e word)) := by
  rw [readEarly_eq]
  rcases earlySteps_spec words with
    ⟨garbled, before, f, value, earlier, same⟩ | ⟨clear, all, hear⟩
  · refine .inl ⟨garbled, .needlessValue f value, ?_⟩
    obtain ⟨r, run, -⟩ := useSteps_of_adds earlier.adds {}
    have fault : ((before ++ [Step.needlessValue f value]).forM (useStep {})).run {} =
        (.error (.complaint (.needlessValue f value)), { request := r }) := by
      rw [List.forM_eq_forM, List.forM_append, ← List.forM_eq_forM,
        ExceptT.run_bind_of_ok run]
      rfl
    rw [same, useSteps, ExceptT.run_bind_of_error fault]
  · refine .inr ⟨clear, ?_⟩
    obtain ⟨r, used, -⟩ := exists_useSteps_of_adds (s := {}) all.adds
    rw [used]
    refine ⟨r, rfl, fun e isEarly => ?_⟩
    have accepted : Accepted ((useSteps {} (earlySteps words)).run {}).1 r := by
      rw [used]
      exact .inl rfl
    rw [(useSteps_accepted accepted).2 e isEarly, hear e]

/-! ### Both passes -/

/-- **What the early options are where the whole command line is accepted**: there are none if a
word before the first `--` is garbled.  Otherwise those that are found, and those that stand
behind a value that is `--`, are those of the request and those that values look like. -/
theorem readEarly_of_accepted {s : Surroundings} {request : Request}
    (h : Accepted (read s words).1 request) :
    ((∃ word ∈ optionWords words, Garbled word) ∧
      ∃ complaint, readEarly words = .error complaint) ∨
    ((∀ word ∈ optionWords words, ¬ Garbled word) ∧
      ∃ early, readEarly words = .ok early ∧ ∀ e ∈ Flag.early,
        (early.has e = true ↔ ∃ word ∈ optionWords words, Heard e word) ∧
        (early.has e = true ∨ Gives e (fullSteps (hidden words)) ↔
          request.has e = true ∨ ∃ value ∈ values words, Heard e value)) := by
  obtain ⟨passes, has⟩ := useSteps_accepted h
  have placed := placed_of_passes words passes
  rcases readEarly_spec words with fault | ⟨clear, early, found, hear⟩
  · exact .inl fault
  · refine .inr ⟨clear, early, found, fun e isEarly => ⟨hear e isEarly, ?_⟩⟩
    rw [hear e isEarly, placed.heard_iff passes clear isEarly, has e isEarly]
    rfl

theorem has_eq_iff {r r' : Request} : (∀ e ∈ Flag.early, r.has e = r'.has e) ↔
    r.verbose = r'.verbose ∧ r.onlineVoices = r'.onlineVoices := by
  simp [Flag.early, Request.has]

/-- The early options agree with the command line where no word is garbled, each option that a
value looks like was given, and each one behind a value that is `--` stands before it too. -/
theorem exists_readEarly {s : Surroundings} {request : Request}
    (h : Accepted (read s words).1 request)
    (clear : ∀ word ∈ optionWords words, ¬ Garbled word)
    (given : ∀ e ∈ Flag.early, ∀ value ∈ values words, Heard e value → request.has e = true)
    (before : ∀ e ∈ Flag.early, Gives e (fullSteps (hidden words)) →
      ∃ word ∈ optionWords words, Heard e word) :
    ∃ early, readEarly words = .ok early ∧ early.verbose = request.verbose ∧
      early.onlineVoices = request.onlineVoices := by
  rcases readEarly_of_accepted h with ⟨⟨word, mem, garbled⟩, -⟩ | ⟨-, early, accepted, has⟩
  · exact absurd garbled (clear word mem)
  refine ⟨early, accepted, has_eq_iff.1 fun e isEarly => ?_⟩
  obtain ⟨hear, balance⟩ := has e isEarly
  rw [Bool.eq_iff_iff]
  constructor
  · intro found
    rcases balance.1 (.inl found) with asked | ⟨value, mem, heard⟩
    · exact asked
    · exact given e isEarly value mem heard
  · intro asked
    rcases balance.2 (.inl asked) with found | behind
    · exact found
    · exact hear.2 (before e isEarly behind)

/-- **Command lines that are safe from the difference:** those where no value is `--` or begins
with a spelling of an early option, and whose other words, where they begin with one, are that
spelling. -/
theorem exists_readEarly_of_fronts {s : Surroundings} {request : Request}
    (h : Accepted (read s words).1 request) (nothing : hidden words = [])
    (whole : ∀ word ∈ optionWords words, ∀ e ∈ Flag.early, ∀ spelling ∈ e.spellings,
      spelling.toList <+: word.toList → word = spelling)
    (other : ∀ value ∈ values words, ∀ e ∈ Flag.early, ∀ spelling ∈ e.spellings,
      ¬ spelling.toList <+: value.toList) :
    ∃ early, readEarly words = .ok early ∧ early.verbose = request.verbose ∧
      early.onlineVoices = request.onlineVoices := by
  refine exists_readEarly h ?_ ?_ ?_
  · intro word mem
    cases option : (Word.read Flag.early word).flag? with
    | none => exact not_garbled_of_steps (Word.steps_of_flag?_eq_none option)
    | some f =>
      have isEarly := Word.mem_early_of_read option
      obtain ⟨spelling, spells, front⟩ := Word.prefix_of_flag? option
      obtain rfl := whole word mem f isEarly spelling spells front
      obtain ⟨c, cs, shape, -, marker⟩ := Flag.spelling_shape spells
      have flag : Word.read Flag.early word = .flag f := by
        rw [Word.read_dashed shape marker, Flag.spelled?_early.2 ⟨isEarly, spells⟩]
      rintro ⟨step, garbled⟩
      rw [flag] at garbled
      cases garbled
  · rintro e isEarly value mem heard
    by_contra
    cases option : (Word.read Flag.early value).flag? with
    | none => exact not_heard_of_flag? option heard
    | some f =>
      obtain ⟨spelling, spells, front⟩ := Word.prefix_of_flag? option
      exact other value mem f (Word.mem_early_of_read option) spelling spells front
  · intro e _ behind
    rw [nothing] at behind
    exact absurd behind not_gives_nil

/-- **When the early options agree with the command line.**  Where the whole command line is
accepted, the early pass accepts it and finds the same early options exactly if no word before
the first `--` is garbled, every early option that a value looks like was given, and every one
that stands behind a value that is `--` stands before it too. -/
theorem readEarly_agrees_iff {s : Surroundings} {request : Request}
    (h : Accepted (read s words).1 request) :
    (∃ early, readEarly words = .ok early ∧ early.verbose = request.verbose ∧
        early.onlineVoices = request.onlineVoices) ↔
      (∀ word ∈ optionWords words, ¬ Garbled word) ∧
        (∀ e ∈ Flag.early, ∀ value ∈ values words, Heard e value → request.has e = true) ∧
        ∀ e ∈ Flag.early, Gives e (fullSteps (hidden words)) →
          ∃ word ∈ optionWords words, Heard e word := by
  constructor
  · rintro ⟨early, accepted, same⟩
    rcases readEarly_of_accepted h with ⟨-, complaint, refused⟩ | ⟨clear, found, ok, has⟩
    · cases accepted.symm.trans refused
    cases accepted.symm.trans ok
    rw [← has_eq_iff] at same
    have heard (e : Flag) (isEarly : e ∈ Flag.early) :
        request.has e = true ↔ ∃ word ∈ optionWords words, Heard e word := by
      rw [← same e isEarly]
      exact (has e isEarly).1
    refine ⟨clear, ?_, ?_⟩
    · intro e isEarly value mem here
      exact (heard e isEarly).2 ⟨value, values_subset words mem, here⟩
    · intro e isEarly behind
      rcases (has e isEarly).2.1 (.inr behind) with asked | ⟨value, mem, here⟩
      · exact (heard e isEarly).1 asked
      · exact ⟨value, values_subset words mem, here⟩
  · rintro ⟨clear, given, before⟩
    exact exists_readEarly h clear given before

/-- An option behind a value that is `--` is missed. -/
example : (read {} ["-o", "--", "-v"]).1 =
      .error (.lossy { verbose := true, lost := [.output] }) ∧
    readEarly ["-o", "--", "-v"] = .ok {} ∧ hidden ["-o", "--", "-v"] = ["-v"] :=
  ⟨rfl, rfl, rfl⟩

/-- A value that looks like an early option does no harm where that option was given. -/
theorem readEarly_agrees_on_repeated_option :
    ∃ request progress, read {} ["-v", "--text", "-v"] = (.ok request, progress) ∧
      request.verbose = true ∧ values ["-v", "--text", "-v"] = ["-v"] ∧
      ∀ word ∈ optionWords ["-v", "--text", "-v"], ¬ Garbled word := by
  have given : CommandLine.steps Flag.all (promote ["-v", "--text", "-v"]) =
      [.given .verbose none, .given .text (some "-v")] := by decide +kernel
  have early : CommandLine.steps Flag.early ["-v", "--text", "-v"] =
      [.given .verbose none, .extra "--text", .given .verbose none] := by decide +kernel
  have asked : read {} ["-v", "--text", "-v"] =
      (.ok { instructions := [.text "-v"], verbose := true },
        { request := { instructions := [.text "-v"], verbose := true } }) := by
    rw [read, readWords, given]
    rfl
  have accepted : readEarly ["-v", "--text", "-v"] = .ok { verbose := true } := by
    rw [readEarly, early]
    rfl
  have whole : Accepted (read {} ["-v", "--text", "-v"]).1 _ := .inl (congrArg Prod.fst asked)
  have agrees := (readEarly_agrees_iff whole).1 ⟨_, accepted, rfl, rfl⟩
  exact ⟨_, _, asked, rfl, by decide +kernel, agrees.1⟩

/-- **Values are taken for early options.**  The text `-vx` is one that early reading refuses,
and the texts `-v` and `--online-voices` set options that nobody gave. -/
theorem readEarly_disagrees :
    (∃ request progress complaint,
      read {} ["--text", "-vx"] = (.ok request, progress) ∧
        readEarly ["--text", "-vx"] = .error complaint) ∧
    (∃ request progress early, read {} ["--text", "-v"] = (.ok request, progress) ∧
      readEarly ["--text", "-v"] = .ok early ∧ request.verbose = false ∧ early.verbose = true) ∧
    ∃ request progress early, read {} ["--text", "--online-voices"] = (.ok request, progress) ∧
      readEarly ["--text", "--online-voices"] = .ok early ∧
        request.onlineVoices = false ∧ early.onlineVoices = true := by
  have asked (word : String) (kept : word ≠ "--") : read {} ["--text", word] =
      (.ok { instructions := [.text word] }, { request := { instructions := [.text word] } }) := by
    have given : CommandLine.steps Flag.all (promote ["--text", word]) =
        [.given .text (some word)] := by
      rw [CommandLine.steps, promote, promoteFrom_value (f := .text) (by decide) rfl,
        stepsFrom_attach rfl]
      rfl
    rw [read, readWords, given, useSteps, List.forM_eq_forM, List.forM_cons,
      useStep_of_kept kept]
    rfl
  have garbled : CommandLine.steps Flag.early ["--text", "-vx"] =
      [.extra "--text", .needlessValue .verbose "x"] := by decide +kernel
  have verbose : CommandLine.steps Flag.early ["--text", "-v"] =
      [.extra "--text", .given .verbose none] := by decide +kernel
  have online : CommandLine.steps Flag.early ["--text", "--online-voices"] =
      [.extra "--text", .given .onlineVoices none] := by decide +kernel
  refine ⟨⟨_, _, .needlessValue .verbose "x", asked _ (by decide), ?_⟩,
    ⟨_, _, { verbose := true }, asked _ (by decide), ?_, rfl, rfl⟩,
    ⟨_, _, { onlineVoices := true }, asked _ (by decide), ?_, rfl, rfl⟩⟩
  · rw [readEarly, garbled]
    rfl
  · rw [readEarly, verbose]
    rfl
  · rw [readEarly, online]
    rfl

end CommandLine
end Recital
