/-
# Rules for the word in front

What promotion makes of the first word of a command line, and how the first word is read
where all options are known:

| word | promoted | read as |
| --- | --- | --- |
| an option with a value, and the next word | the word attached to the option | the option with it |
| an option, `=`, and a value | as it is | the option with the value |
| an option without a value | as it is | the option |
| no dash in front | attached to `--text` | a text |
| `--` | all words behind it attached to `--text` | texts |

The facts about spellings behind these rules are looked up in the table of options.
-/

import Recital.CommandLine.Promotion
import Recital.CommandLine.Reading

namespace Recital
namespace CommandLine

/-! ### Spellings -/

namespace Flag

theorem mem_all (f : Flag) : f ∈ all := by
  cases f with
  | dial d => cases d <;> decide
  | loop fade => cases fade <;> decide
  | _ => decide

theorem long_mem_spellings (f : Flag) : f.long ∈ f.spellings :=
  List.mem_append_right _ (List.mem_singleton.2 rfl)

variable {f : Flag} {known : List Flag} {word : String}

theorem of_spelled? (h : spelled? known word = some f) : f ∈ known ∧ word ∈ f.spellings := by
  have contains := List.find?_some h
  exact ⟨List.mem_of_find?_eq_some h, List.contains_iff_mem.1 contains⟩

/-- A spelling belongs to one option. -/
theorem spelled?_all (h : word ∈ f.spellings) : spelled? all word = some f := by
  have table : ∀ f ∈ all, ∀ w ∈ f.spellings, spelled? all w = some f := by decide +kernel
  exact table f f.mem_all word h

theorem spelled?_all_eq_some : spelled? all word = some f ↔ word ∈ f.spellings :=
  ⟨fun h => (of_spelled? h).2, spelled?_all⟩

/-- A spelling has a dash in front, is longer than it, and holds no equals sign. -/
theorem spelling_shape (h : word ∈ f.spellings) :
    ∃ c cs, word.toList = '-' :: c :: cs ∧ '=' ∉ word.toList ∧ word ≠ "--" := by
  have table : ∀ f ∈ all, ∀ w ∈ f.spellings,
      w.toList.head? = some '-' ∧ w.toList.length ≠ 1 ∧ '=' ∉ w.toList ∧ w ≠ "--" := by
    decide +kernel
  obtain ⟨dash, long, noSign, noMarker⟩ := table f f.mem_all word h
  cases shape : word.toList with
  | nil => rw [shape] at dash; cases dash
  | cons d cs =>
    rw [shape] at dash long noSign
    obtain rfl : d = '-' := Option.some.inj dash
    cases cs with
    | nil => exact absurd rfl long
    | cons c cs => exact ⟨c, cs, rfl, noSign, noMarker⟩

/-- A word with a value attached to an option is dashed, but spells no option itself. -/
theorem attached_shape (spells : word ∈ f.spellings) (value : String) :
    ∃ c cs, (word ++ "=" ++ value).toList = '-' :: c :: cs ∧ word ++ "=" ++ value ≠ "--" ∧
      spelled? all (word ++ "=" ++ value) = none := by
  obtain ⟨c, cs, shape, -, -⟩ := spelling_shape spells
  have sign : '=' ∈ (word ++ "=" ++ value).toList := by simp
  refine ⟨c, cs ++ '=' :: value.toList, ?_, ?_, ?_⟩
  · rw [String.toList_append, String.toList_append, shape]
    simp
  · intro same
    rw [same] at sign
    exact absurd sign (by decide)
  · rw [Option.eq_none_iff_forall_ne_some]
    intro g h
    obtain ⟨_, _, _, noSign, -⟩ := spelling_shape (of_spelled? h).2
    exact noSign sign

end Flag

variable {f : Flag} {known : List Flag} {word value : String} {words : List String}

theorem valueFlag?_eq_some :
    valueFlag? word = some f ↔ word ∈ f.spellings ∧ f.takesValue = true := by
  rw [valueFlag?, Option.filter_eq_some_iff, Flag.spelled?_all_eq_some]

theorem ne_marker_of_bare (bare : word.toList.head? ≠ some '-') : word ≠ "--" := by
  rintro rfl
  exact bare rfl

theorem valueFlag?_of_bare (bare : word.toList.head? ≠ some '-') : valueFlag? word = none := by
  rw [Option.eq_none_iff_forall_ne_some]
  intro f h
  obtain ⟨c, cs, shape, -, -⟩ := Flag.spelling_shape (valueFlag?_eq_some.1 h).1
  exact bare (by rw [shape]; rfl)

/-! ### Promotion -/

theorem promoteFrom_cons (word : String) (words : List String) :
    promoteFrom none (word :: words) =
      if word = "--" then words.map (attach .text)
      else match valueFlag? word with
        | some flag => promoteFrom (some flag) words
        | none =>
          if word.toList.head? = some '-' then word :: promoteFrom none words
          else attach .text word :: promoteFrom none words := rfl

theorem promoteFrom_value (spells : word ∈ f.spellings) (takes : f.takesValue = true) :
    promoteFrom none (word :: value :: words) = attach f value :: promoteFrom none words := by
  obtain ⟨_, _, _, _, noMarker⟩ := Flag.spelling_shape spells
  rw [promoteFrom_cons, if_neg noMarker, valueFlag?_eq_some.2 ⟨spells, takes⟩]
  rfl

/-- An option whose value is missing stays as it is, in its long spelling. -/
theorem promoteFrom_value_missing (spells : word ∈ f.spellings) (takes : f.takesValue = true) :
    promoteFrom none [word] = [f.long] := by
  obtain ⟨_, _, _, _, noMarker⟩ := Flag.spelling_shape spells
  rw [promoteFrom_cons, if_neg noMarker, valueFlag?_eq_some.2 ⟨spells, takes⟩]
  rfl

/-- A word with a dash in front is kept, unless it waits for a value or ends the options. -/
theorem promoteFrom_dashed (dash : word.toList.head? = some '-') (noMarker : word ≠ "--")
    (noValue : valueFlag? word = none) :
    promoteFrom none (word :: words) = word :: promoteFrom none words := by
  rw [promoteFrom_cons, if_neg noMarker, noValue]
  exact if_pos dash

theorem promoteFrom_attached (spells : word ∈ f.spellings) :
    promoteFrom none ((word ++ "=" ++ value) :: words) =
      (word ++ "=" ++ value) :: promoteFrom none words := by
  obtain ⟨c, cs, dashed, noMarker, noSpelling⟩ := Flag.attached_shape spells value
  refine promoteFrom_dashed (by rw [dashed]; rfl) noMarker ?_
  rw [valueFlag?, noSpelling]
  rfl

theorem promoteFrom_bare (bare : word.toList.head? ≠ some '-') :
    promoteFrom none (word :: words) = attach .text word :: promoteFrom none words := by
  rw [promoteFrom_cons, if_neg (ne_marker_of_bare bare), valueFlag?_of_bare bare]
  exact if_neg bare

theorem promoteFrom_marker : promoteFrom none ("--" :: words) = words.map (attach .text) := by
  rw [promoteFrom_cons, if_pos rfl]

/-- **What promotion makes of the first word,** together with the next one where that is its
value. -/
theorem promoteFrom_cases (word : String) (words : List String) :
    (word = "--" ∧ promoteFrom none (word :: words) = words.map (attach .text)) ∨
    (word.toList.head? ≠ some '-' ∧
      promoteFrom none (word :: words) = attach .text word :: promoteFrom none words) ∨
    (word ≠ "--" ∧ valueFlag? word = none ∧
      promoteFrom none (word :: words) = word :: promoteFrom none words) ∨
    ∃ f : Flag, word ∈ f.spellings ∧ f.takesValue = true ∧
      ((words = [] ∧ promoteFrom none (word :: words) = [f.long]) ∨
        ∃ value rest, words = value :: rest ∧
          promoteFrom none (word :: words) = attach f value :: promoteFrom none rest) := by
  by_cases marker : word = "--"
  · subst marker
    exact .inl ⟨rfl, promoteFrom_marker⟩
  by_cases dash : word.toList.head? = some '-'
  · cases waits : valueFlag? word with
    | none => exact .inr (.inr (.inl ⟨marker, rfl, promoteFrom_dashed dash marker waits⟩))
    | some f =>
      obtain ⟨spells, takes⟩ := valueFlag?_eq_some.1 waits
      refine .inr (.inr (.inr ⟨f, spells, takes, ?_⟩))
      cases words with
      | nil => exact .inl ⟨rfl, promoteFrom_value_missing spells takes⟩
      | cons value rest => exact .inr ⟨value, rest, rfl, promoteFrom_value spells takes⟩
  · exact .inr (.inl ⟨dash, promoteFrom_bare dash⟩)

/-! ### Reading -/

/-- The word is split at its first equals sign. -/
theorem splitValue?_append {cs : List Char} (h : '=' ∉ cs) (rest : List Char) :
    splitValue? known (cs ++ '=' :: rest) =
      (Flag.spelled? known (String.ofList cs)).map fun f => (f, rest) := by
  have before : (cs ++ '=' :: rest).takeWhile (· != '=') = cs := by
    have noSign (c : Char) (mem : c ∈ cs) : (c != '=') = true := by
      rw [bne_iff_ne]
      rintro rfl
      exact h mem
    rw [List.takeWhile_append_of_pos noSign, List.takeWhile_cons_of_neg (by decide),
      List.append_nil]
  rw [splitValue?, before, List.drop_left]

/-- A word that starts with a dash and goes on is an option, or looked into. -/
theorem Word.read_dashed {c : Char} {cs : List Char} (shape : word.toList = '-' :: c :: cs)
    (noMarker : word ≠ "--") :
    Word.read known word = match Flag.spelled? known word with
      | some f => .flag f
      | none => .ofDashed known word.toList := by
  rw [Word.read, if_neg noMarker, shape]
  cases Flag.spelled? known word with
  | none => rfl
  | some f => rfl

/-- A word without a dash in front, or with nothing behind it, is no option. -/
theorem Word.read_bare (bare : ∀ c cs, word.toList ≠ '-' :: c :: cs) :
    Word.read known word = .plain := by
  have noMarker : word ≠ "--" := by
    rintro rfl
    exact bare '-' [] rfl
  have noSpelling : Flag.spelled? known word = none := by
    rw [Option.eq_none_iff_forall_ne_some]
    intro f h
    obtain ⟨c, cs, shape, -, -⟩ := Flag.spelling_shape (Flag.of_spelled? h).2
    exact bare c cs shape
  rw [Word.read, if_neg noMarker]
  split
  · next rest shape =>
    cases rest with
    | nil => rw [noSpelling]; rfl
    | cons c cs => exact absurd shape (bare c cs)
  · rfl

/-- An option with a value that is attached by an equals sign. -/
theorem Word.read_attached (spells : word ∈ f.spellings) :
    Word.read Flag.all (word ++ "=" ++ value) =
      .attached f (word.toList[1]? != some '-') value.toList := by
  obtain ⟨c, cs, shape, noSign, -⟩ := Flag.spelling_shape spells
  obtain ⟨_, _, dashed, noMarker, noSpelling⟩ := Flag.attached_shape spells value
  have chars : (word ++ "=" ++ value).toList = word.toList ++ '=' :: value.toList := by simp
  have split : splitValue? Flag.all (word.toList ++ '=' :: value.toList) = _ :=
    splitValue?_append noSign value.toList
  rw [String.ofList_toList, Flag.spelled?_all spells] at split
  rw [Word.read_dashed dashed noMarker, noSpelling]
  dsimp only
  rw [Word.ofDashed, chars, split, shape]
  rfl

theorem Word.read_spelling (spells : word ∈ f.spellings) :
    Word.read Flag.all word = .flag f := by
  obtain ⟨c, cs, shape, -, noMarker⟩ := Flag.spelling_shape spells
  rw [Word.read_dashed shape noMarker, Flag.spelled?_all spells]

theorem flagsOf_of_takesValue (takes : f.takesValue = true) (isShort : Bool) (cs : List Char) :
    flagsOf known f isShort cs = .ok ([], f, some (String.ofList cs)) := by
  cases isShort with
  | false => rw [flagsOf, if_neg Bool.false_ne_true, if_pos takes]
  | true =>
    rw [flagsOf, if_pos rfl]
    cases cs with
    | nil => rw [unbundle, if_pos takes]
    | cons c cs => rw [unbundle, if_pos takes]

theorem stepsFrom_attached (spells : word ∈ f.spellings) (takes : f.takesValue = true) :
    stepsFrom Flag.all none ((word ++ "=" ++ value) :: words) =
      .given f (some value) :: stepsFrom Flag.all none words := by
  rw [stepsFrom, Word.read_attached spells]
  dsimp only
  rw [flagsOf_of_takesValue takes, String.ofList_toList]
  rfl

theorem stepsFrom_attach (takes : f.takesValue = true) :
    stepsFrom Flag.all none (attach f value :: words) =
      .given f (some value) :: stepsFrom Flag.all none words :=
  stepsFrom_attached f.long_mem_spellings takes

theorem stepsFrom_switch (spells : word ∈ f.spellings) (takes : f.takesValue = false) :
    stepsFrom Flag.all none (word :: words) =
      .given f none :: stepsFrom Flag.all none words := by
  rw [stepsFrom, Word.read_spelling spells]
  dsimp only
  rw [if_neg (by simp [takes])]

/-- Words behind a lone `--` are texts. -/
theorem stepsFrom_map_attach (words : List String) :
    stepsFrom Flag.all none (words.map (attach .text)) =
      words.map fun w => .given .text (some w) := by
  induction words with
  | nil => rfl
  | cons w words ih => rw [List.map_cons, List.map_cons, stepsFrom_attach rfl, ih]

end CommandLine
end Recital
