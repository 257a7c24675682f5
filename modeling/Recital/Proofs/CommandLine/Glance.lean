/-
# A word where few options are known

Early reading knows two options only.  What it makes of a single word is compared with what
full reading makes of it:

| full reading | early reading |
| --- | --- |
| an early option | the same |
| an early option with more in its word | the same split, the rest looked at again |
| another option, alone or with a value | passed over |
| no option | passed over |

The rest behind `-v` is where the two may differ in the end: full reading finds all options
there, early reading only the early ones.  Where early reading finds no fault in it, both find
the same (`flagsOf_early`).
-/

import Recital.Proofs.CommandLine.Placement

namespace Recital
namespace CommandLine

variable {e f : Flag} {known : List Flag} {word : String}

/-! ### Spellings -/

namespace Flag

theorem spelled?_early : spelled? early word = some f ↔ f ∈ early ∧ word ∈ f.spellings := by
  have table : ∀ f ∈ early, ∀ w ∈ f.spellings, spelled? early w = some f := by decide
  exact ⟨of_spelled?, fun h => table f h.1 word h.2⟩

theorem spelled?_early_eq_none (h : ∀ f ∈ early, spelled? all word ≠ some f) :
    spelled? early word = none := by
  rw [Option.eq_none_iff_forall_ne_some]
  intro f same
  obtain ⟨mem, spells⟩ := spelled?_early.1 same
  exact h f mem (spelled?_all spells)

theorem takesValue_of_mem_early (h : f ∈ early) : f.takesValue = false := by
  have table : ∀ f ∈ early, f.takesValue = false := by decide
  exact table f h

/-- A spelling with one dash has two characters. -/
theorem length_of_short (spells : word ∈ f.spellings) (short : word.toList[1]? ≠ some '-') :
    word.toList.length = 2 := by
  have table : ∀ f ∈ all, ∀ w ∈ f.spellings, w.toList[1]? ≠ some '-' → w.toList.length = 2 := by
    decide +kernel
  exact table f f.mem_all word spells short

/-- Short spellings without a value are those of the early option and of the one that prints
the help. -/
theorem eq_help_of_short (spells : word ∈ f.spellings) (short : word.toList[1]? ≠ some '-')
    (takes : f.takesValue = false) (late : f ∉ early) : f = .help := by
  have table : ∀ f ∈ all, ∀ w ∈ f.spellings, w.toList[1]? ≠ some '-' → f.takesValue = false →
      f ∉ early → f = .help := by decide +kernel
  exact table f f.mem_all word spells short takes late

end Flag

/-! ### Single words -/

theorem splitValue?_of_notMem {cs : List Char} (h : '=' ∉ cs) : splitValue? known cs = none := by
  have whole : cs.takeWhile (· != '=') = cs := by
    have noSign (c : Char) (mem : c ∈ cs) : (c != '=') = true := by
      rw [bne_iff_ne]
      rintro rfl
      exact h mem
    have all : (cs ++ []).takeWhile (· != '=') = cs ++ [].takeWhile (· != '=') :=
      List.takeWhile_append_of_pos noSign
    rwa [List.append_nil, List.takeWhile_nil, List.append_nil] at all
  rw [splitValue?, whole, List.drop_length]

/-- A word that attaches a value has its option before the first equals sign. -/
theorem splitValue?_eq_some {cs value : List Char} :
    splitValue? known cs = some (f, value) ↔ ∃ before, '=' ∉ before ∧
      cs = before ++ '=' :: value ∧ Flag.spelled? known (String.ofList before) = some f := by
  constructor
  · intro h
    by_cases sign : '=' ∈ cs
    · obtain ⟨before, rest, rfl, noSign⟩ := List.eq_append_cons_of_mem sign
      rw [splitValue?_append noSign, Option.map_eq_some_iff] at h
      obtain ⟨g, spelled, same⟩ := h
      obtain ⟨rfl, rfl⟩ := Prod.mk.inj same
      exact ⟨before, noSign, rfl, spelled⟩
    · rw [splitValue?_of_notMem sign] at h
      cases h
  · rintro ⟨before, noSign, rfl, spelled⟩
    rw [splitValue?_append noSign, spelled]
    rfl

theorem splitValue?_early {cs value : List Char} :
    splitValue? Flag.early cs = some (f, value) ↔
      f ∈ Flag.early ∧ splitValue? Flag.all cs = some (f, value) := by
  simp only [splitValue?_eq_some, Flag.spelled?_early, Flag.spelled?_all_eq_some]
  constructor
  · rintro ⟨before, noSign, rfl, early, spells⟩
    exact ⟨early, before, noSign, rfl, spells⟩
  · rintro ⟨early, before, noSign, rfl, spells⟩
    exact ⟨before, noSign, rfl, early, spells⟩

/-- The three ways of a word that starts with a dash and goes on: an equals sign behind an
option, a short option in front, or neither. -/
theorem Word.ofDashed_cases (known : List Flag) (cs : List Char) :
    (∃ f value, splitValue? known cs = some (f, value) ∧
      ofDashed known cs = .attached f (cs[1]? != some '-') value) ∨
    (splitValue? known cs = none ∧ cs[1]? ≠ some '-' ∧
      ∃ f, Flag.spelled? known (String.ofList (cs.take 2)) = some f ∧
        ofDashed known cs = .attached f true (cs.drop 2)) ∨
    (splitValue? known cs = none ∧
      (cs[1]? = some '-' ∨ Flag.spelled? known (String.ofList (cs.take 2)) = none) ∧
      (ofDashed known cs).flag? = none) := by
  have quiet (p : Prop) [Decidable p] : (if p then plain else unknown).flag? = none := by
    split <;> rfl
  rw [ofDashed]
  cases splitValue? known cs with
  | some found =>
    obtain ⟨f, value⟩ := found
    exact .inl ⟨f, value, rfl, rfl⟩
  | none =>
    by_cases short : cs[1]? = some '-'
    · refine .inr (.inr ⟨rfl, .inl short, ?_⟩)
      rw [short]
      exact quiet _
    · rw [bne_iff_ne.2 short, if_pos rfl]
      cases spelled : Flag.spelled? known (String.ofList (cs.take 2)) with
      | some f => exact .inr (.inl ⟨rfl, short, f, rfl, rfl⟩)
      | none => exact .inr (.inr ⟨rfl, .inr rfl, quiet _⟩)

/-- A short option in front of an equals sign is what the word starts with. -/
theorem take_two_of_splitValue? {cs value : List Char} (short : cs[1]? ≠ some '-')
    (h : splitValue? Flag.all cs = some (f, value)) : String.ofList (cs.take 2) ∈ f.spellings := by
  obtain ⟨before, -, rfl, spelled⟩ := splitValue?_eq_some.1 h
  have spells := Flag.spelled?_all_eq_some.1 spelled
  obtain ⟨c, rest, shape, -, -⟩ := Flag.spelling_shape spells
  rw [String.toList_ofList] at shape
  have two : before.length = 2 := by
    have length := Flag.length_of_short spells
    rw [String.toList_ofList] at length
    refine length ?_
    rwa [shape] at short ⊢
  rwa [← two, List.take_left]

/-- A word that is no option by itself is looked into in early reading as in full reading, or
passed over because its option is another one or none. -/
theorem Word.ofDashed_early (cs : List Char) :
    ofDashed Flag.early cs = ofDashed Flag.all cs ∨ (ofDashed Flag.early cs).flag? = none ∧
      ∀ f, (ofDashed Flag.all cs).flag? = some f → f ∉ Flag.early := by
  rcases ofDashed_cases Flag.early cs with
    ⟨f, value, split, early⟩ | ⟨split, short, f, spelled, early⟩ | ⟨split, spelled, quiet⟩
  · left
    rw [early, ofDashed, (splitValue?_early.1 split).2]
  · left
    obtain ⟨isEarly, spells⟩ := Flag.spelled?_early.1 spelled
    have fullSplit : splitValue? Flag.all cs = none := by
      rw [Option.eq_none_iff_forall_ne_some]
      rintro ⟨g, value⟩ found
      have same := Flag.spelled?_all (take_two_of_splitValue? short found)
      rw [Flag.spelled?_all spells] at same
      obtain rfl := Option.some.inj same
      have earlySplit := splitValue?_early.2 ⟨isEarly, found⟩
      rw [split] at earlySplit
      cases earlySplit
    rw [early, ofDashed, fullSplit, bne_iff_ne.2 short, if_pos rfl, Flag.spelled?_all spells]
  · refine .inr ⟨quiet, fun f full isEarly => ?_⟩
    rcases ofDashed_cases Flag.all cs with
      ⟨g, value, found, whole⟩ | ⟨-, short, g, found, whole⟩ | ⟨-, -, none⟩
    · rw [whole] at full
      obtain rfl := Option.some.inj full
      have earlySplit := splitValue?_early.2 ⟨isEarly, found⟩
      rw [split] at earlySplit
      cases earlySplit
    · rw [whole] at full
      obtain rfl := Option.some.inj full
      have none := spelled.resolve_left short
      rw [Flag.spelled?_early.2 ⟨isEarly, Flag.spelled?_all_eq_some.1 found⟩] at none
      cases none
    · rw [none] at full
      cases full

/-- **Early reading of a word** is full reading, or passes over the word because its option is
another one or none. -/
theorem Word.read_early (word : String) :
    read Flag.early word = read Flag.all word ∨ (read Flag.early word).flag? = none ∧
      ∀ f, (read Flag.all word).flag? = some f → f ∉ Flag.early := by
  by_cases marker : word = "--"
  · left
    rw [read, read, if_pos marker, if_pos marker]
  by_cases dashed : ∃ c cs, word.toList = '-' :: c :: cs
  · obtain ⟨c, cs, shape⟩ := dashed
    cases spelled : Flag.spelled? Flag.all word with
    | none =>
      have early : Flag.spelled? Flag.early word = none :=
        Flag.spelled?_early_eq_none fun f _ => by simp [spelled]
      rw [read_dashed shape marker, read_dashed shape marker, spelled, early]
      exact ofDashed_early word.toList
    | some f =>
      have spells := Flag.spelled?_all_eq_some.1 spelled
      have whole := read_spelling spells
      by_cases isEarly : f ∈ Flag.early
      · left
        rw [whole, read_dashed shape marker, Flag.spelled?_early.2 ⟨isEarly, spells⟩]
      · have table : ∀ f ∈ Flag.all, ∀ w ∈ f.spellings, f ∉ Flag.early →
            read Flag.early w = .unknown := by decide +kernel
        refine .inr ⟨?_, fun g same => ?_⟩
        · rw [table f f.mem_all word spells isEarly]
          rfl
        rw [whole] at same
        exact Option.some.inj same ▸ isEarly
  · left
    rw [read_bare fun c cs shape => dashed ⟨c, cs, shape⟩,
      read_bare fun c cs shape => dashed ⟨c, cs, shape⟩]

/-! ### What follows a short option -/

/-- What follows an early option is read by early reading as by full reading, unless early
reading finds a fault in it; and then there are only early options in it. -/
theorem unbundle_early {f : Flag} {cs : List Char} {bundled : List Step} {last : Flag}
    {value : Option String} (isEarly : f ∈ Flag.early)
    (h : unbundle Flag.early f cs = .ok (bundled, last, value)) :
    unbundle Flag.all f cs = .ok (bundled, last, value) ∧ last ∈ Flag.early ∧ value = none ∧
      ∀ step ∈ bundled, ∃ g ∈ Flag.early, step = .given g none := by
  induction cs generalizing f bundled with
  | nil =>
    rw [unbundle, if_neg (by simp [Flag.takesValue_of_mem_early isEarly])] at h
    cases h
  | cons c cs ih =>
    rw [unbundle, if_neg (by simp [Flag.takesValue_of_mem_early isEarly])] at h ⊢
    cases spelled : Flag.spelled? Flag.early (String.ofList ['-', c]) with
    | none =>
      rw [spelled] at h
      cases h
    | some g =>
      obtain ⟨isEarly', spells⟩ := Flag.spelled?_early.1 spelled
      rw [Flag.spelled?_all spells]
      rw [spelled] at h
      dsimp only at h ⊢
      split at h
      · next last =>
        cases h
        rw [if_pos last]
        refine ⟨rfl, isEarly', rfl, fun step mem => ⟨f, isEarly, List.mem_singleton.1 mem⟩⟩
      · next more =>
        rw [if_neg more]
        cases rest : unbundle Flag.early g cs with
        | error step =>
          rw [rest] at h
          cases h
        | ok found =>
          obtain ⟨steps, last', value'⟩ := found
          rw [rest] at h
          cases h
          obtain ⟨same, isLast, none, known⟩ := ih isEarly' rest
          rw [same]
          exact ⟨rfl, isLast, none, List.forall_mem_cons.2 ⟨⟨f, isEarly, rfl⟩, known⟩⟩

theorem flagsOf_early {f : Flag} {isShort : Bool} {cs : List Char} {bundled : List Step}
    {last : Flag} {value : Option String} (isEarly : f ∈ Flag.early)
    (h : flagsOf Flag.early f isShort cs = .ok (bundled, last, value)) :
    flagsOf Flag.all f isShort cs = .ok (bundled, last, value) ∧ last ∈ Flag.early ∧
      value = none ∧ ∀ step ∈ bundled, ∃ g ∈ Flag.early, step = .given g none := by
  cases isShort with
  | true => exact unbundle_early isEarly h
  | false =>
    rw [flagsOf, if_neg Bool.false_ne_true,
      if_neg (by simp [Flag.takesValue_of_mem_early isEarly])] at h
    cases h

/-! ### What a word comes to -/

/-- Whether early reading of a word gives an option. -/
def Heard (e : Flag) (word : String) : Prop :=
  ∃ here, (Word.read Flag.early word).steps Flag.early = .ok (here, none) ∧ Gives e here

/-- Whether early reading finds fault with a word. -/
def Garbled (word : String) : Prop :=
  ∃ step, (Word.read Flag.early word).steps Flag.early = .error step

namespace Word

variable {here bundled : List Step} {last : Flag} {last? : Option Flag} {value : Option String}

/-- A word with a dash in front that goes on, unless it ends the options. -/
theorem dashed_of_flag? (h : (read known word).flag? = some f) :
    word ≠ "--" ∧ ∃ c cs, word.toList = '-' :: c :: cs := by
  constructor
  · rintro rfl
    cases h
  · by_contra bare
    rw [read_bare fun c cs shape => bare ⟨c, cs, shape⟩] at h
    cases h

/-- **The option of a word** is spelled by the whole word, by what stands before its first
equals sign, or by its first two characters. -/
theorem read_cases (h : (read known word).flag? = some f) :
    (read known word = .flag f ∧ Flag.spelled? known word = some f) ∨
    (∃ value, read known word = .attached f (word.toList[1]? != some '-') value ∧
      splitValue? known word.toList = some (f, value)) ∨
    (read known word = .attached f true (word.toList.drop 2) ∧ word.toList[1]? ≠ some '-' ∧
      Flag.spelled? known (String.ofList (word.toList.take 2)) = some f) := by
  obtain ⟨marker, c, cs, shape⟩ := dashed_of_flag? h
  rw [read_dashed shape marker] at h ⊢
  cases spelled : Flag.spelled? known word with
  | some g =>
    rw [spelled] at h
    obtain rfl := Option.some.inj h
    exact .inl ⟨rfl, rfl⟩
  | none =>
    rw [spelled] at h
    dsimp only at h ⊢
    rcases ofDashed_cases known word.toList with
      ⟨g, value, found, whole⟩ | ⟨-, short, g, found, whole⟩ | ⟨-, -, none⟩
    · rw [whole] at h ⊢
      obtain rfl := Option.some.inj h
      exact .inr (.inl ⟨value, rfl, found⟩)
    · rw [whole] at h ⊢
      obtain rfl := Option.some.inj h
      exact .inr (.inr ⟨rfl, short, found⟩)
    · rw [none] at h
      cases h

theorem mem_early_of_read (h : (read Flag.early word).flag? = some f) : f ∈ Flag.early := by
  rcases read_cases h with ⟨-, found⟩ | ⟨value, -, found⟩ | ⟨-, -, found⟩
  · exact (Flag.spelled?_early.1 found).1
  · exact (splitValue?_early.1 found).1
  · exact (Flag.spelled?_early.1 found).1

/-- What follows a single dash and an option stands behind a short spelling of it. -/
theorem eq_help_of_read {rest : List Char} (h : read Flag.all word = .attached f true rest)
    (takes : f.takesValue = false) (late : f ∉ Flag.early) : f = .help := by
  have option : (read Flag.all word).flag? = some f := by
    rw [h]
    rfl
  have short : word.toList[1]? ≠ some '-' ∧
      String.ofList (word.toList.take 2) ∈ f.spellings := by
    rcases read_cases option with ⟨flag, -⟩ | ⟨value, attached, found⟩ | ⟨-, short, found⟩
    · rw [h] at flag
      cases flag
    · rw [h] at attached
      have short := bne_iff_ne.1 (Word.attached.inj attached).2.1.symm
      exact ⟨short, take_two_of_splitValue? short found⟩
    · exact ⟨short, Flag.spelled?_all_eq_some.1 found⟩
  refine Flag.eq_help_of_short short.2 ?_ takes late
  rw [String.toList_ofList, List.getElem?_take_of_lt (by decide)]
  exact short.1

/-- An option without a value is among the options of its word. -/
theorem given_mem_of_unbundle {cs : List Char} (takes : f.takesValue = false)
    (h : unbundle known f cs = .ok (bundled, last, value)) : .given f none ∈ bundled := by
  cases cs with
  | nil =>
    rw [unbundle, if_neg (by simp [takes])] at h
    cases h
  | cons c cs =>
    rw [unbundle, if_neg (by simp [takes])] at h
    split at h
    · cases h
    · split at h
      · cases h
        exact List.mem_cons_self
      · split at h
        · cases h
        · cases h
          exact List.mem_cons_self

/-- An option that early reading does not know takes a value if more stands in its word and
the word passes: bundles begin with the early option or with the one that prints the help. -/
theorem takesValue_of_late {isShort : Bool} {cs : List Char}
    (h : read Flag.all word = .attached f isShort cs) (late : f ∉ Flag.early)
    (found : flagsOf Flag.all f isShort cs = .ok (bundled, last, value))
    (passes : ∀ step ∈ bundled, step.Passes) : f.takesValue = true := by
  by_contra takes
  rw [Bool.not_eq_true] at takes
  cases isShort with
  | false =>
    rw [flagsOf, if_neg Bool.false_ne_true, if_neg (by simp [takes])] at found
    cases found
  | true =>
    obtain rfl := eq_help_of_read h takes late
    exact passes _ (given_mem_of_unbundle takes found) rfl

/-- Where early reading finds no fault with the options of a word, full reading finds the
same. -/
theorem steps_early {w : Word} (isEarly : ∀ f, w.flag? = some f → f ∈ Flag.early)
    (h : w.steps Flag.early = .ok (here, last?)) :
    w.steps Flag.all = .ok (here, none) ∧ last? = none ∧
      ∀ step ∈ here, ∃ g ∈ Flag.early, step = .given g none := by
  cases w with
  | flag f =>
    have takes := Flag.takesValue_of_mem_early (isEarly f rfl)
    rw [steps, if_neg (by simp [takes])] at h ⊢
    cases h
    exact ⟨rfl, rfl, fun step mem => ⟨f, isEarly f rfl, List.mem_singleton.1 mem⟩⟩
  | attached f isShort cs =>
    rw [steps] at h ⊢
    cases found : flagsOf Flag.early f isShort cs with
    | error step =>
      rw [found] at h
      cases h
    | ok parts =>
      obtain ⟨bundled, last, value⟩ := parts
      obtain ⟨same, isLast, rfl, known⟩ := flagsOf_early (isEarly f rfl) found
      have takes := Flag.takesValue_of_mem_early isLast
      rw [found] at h
      rw [same]
      dsimp only at h ⊢
      rw [if_neg (by simp [takes])] at h ⊢
      cases h
      refine ⟨rfl, rfl, List.forall_mem_append.2 ⟨known, fun step mem => ?_⟩⟩
      exact ⟨last, isLast, List.mem_singleton.1 mem⟩
  | _ =>
    cases h
    exact ⟨rfl, rfl, List.forall_mem_nil _⟩

theorem spelled?_of_read (h : read known word = .flag f) :
    Flag.spelled? known word = some f := by
  have option : (read known word).flag? = some f := by
    rw [h]
    rfl
  rcases read_cases option with ⟨-, found⟩ | ⟨value, attached, -⟩ | ⟨attached, -⟩
  · exact found
  · rw [h] at attached
    cases attached
  · rw [h] at attached
    cases attached

/-- An option is spelled in front of its word. -/
theorem prefix_of_flag? (h : (read known word).flag? = some f) :
    ∃ spelling ∈ f.spellings, spelling.toList <+: word.toList := by
  rcases read_cases h with ⟨-, found⟩ | ⟨value, -, found⟩ | ⟨-, -, found⟩
  · exact ⟨word, (Flag.of_spelled? found).2, List.prefix_rfl⟩
  · obtain ⟨before, -, split, spelled⟩ := splitValue?_eq_some.1 found
    refine ⟨_, (Flag.of_spelled? spelled).2, ?_⟩
    rw [String.toList_ofList, split]
    exact List.prefix_append _ _
  · refine ⟨_, (Flag.of_spelled? found).2, ?_⟩
    rw [String.toList_ofList]
    exact List.take_prefix _ _

theorem steps_of_flag?_eq_none {w : Word} (h : w.flag? = none) :
    w.steps known = .ok ([], none) := by
  cases w with
  | flag f => cases h
  | attached f isShort cs => cases h
  | _ => rfl

/-- Full reading finds no early option in a word that early reading passes over. -/
theorem steps_late (late : ∀ f, (read Flag.all word).flag? = some f → f ∉ Flag.early)
    (becomes : (read Flag.all word).steps Flag.all = .ok (here, last?))
    (passes : ∀ step ∈ here, step.Passes) :
    (∀ e ∈ Flag.early, ¬ Gives e here) ∧
      ∀ last, last? = some last → valueFlag? word = some last := by
  cases shape : read Flag.all word with
  | flag f =>
    have other := late f (by rw [shape]; rfl)
    rw [shape, steps] at becomes
    split at becomes
    · next takes =>
      cases becomes
      refine ⟨fun _ _ => not_gives_nil, ?_⟩
      rintro _ ⟨⟩
      exact valueFlag?_eq_some.2 ⟨Flag.spelled?_all_eq_some.1 (spelled?_of_read shape), takes⟩
    · cases becomes
      refine ⟨fun e isEarly gives => ?_, by rintro _ ⟨⟩⟩
      obtain rfl := (gives_cons.1 gives).resolve_right not_gives_nil
      exact other isEarly
  | attached f isShort cs =>
    have other := late f (by rw [shape]; rfl)
    have takes : f.takesValue = true := by
      rw [shape, steps] at becomes
      split at becomes
      · cases becomes
      · next found =>
        cases becomes
        exact takesValue_of_late shape other found fun step mem =>
          passes step (List.mem_append_left _ mem)
      · next found =>
        refine takesValue_of_late shape other found fun step mem => passes step ?_
        split at becomes
        · cases becomes
          exact mem
        · cases becomes
          exact List.mem_append_left _ mem
    rw [shape, steps, flagsOf_of_takesValue takes] at becomes
    cases becomes
    refine ⟨fun e isEarly gives => ?_, by rintro _ ⟨⟩⟩
    obtain rfl := (gives_cons.1 gives).resolve_right not_gives_nil
    exact other isEarly
  | _ =>
    rw [shape] at becomes
    cases becomes
    exact ⟨fun _ _ => not_gives_nil, by rintro _ ⟨⟩⟩

end Word

variable {here : List Step} {last : Flag} {last? : Option Flag}

theorem exists_steps_of_not_garbled (clear : ¬ Garbled word) :
    ∃ here last?, (Word.read Flag.early word).steps Flag.early = .ok (here, last?) := by
  cases early : (Word.read Flag.early word).steps Flag.early with
  | error step => exact absurd ⟨step, early⟩ clear
  | ok found => exact ⟨found.1, found.2, rfl⟩

/-- What early reading knows of a word it does not pass over, full reading knows as well. -/
theorem full_steps (same : Word.read Flag.early word = Word.read Flag.all word)
    (early : (Word.read Flag.early word).steps Flag.early = .ok (here, last?)) :
    (Word.read Flag.all word).steps Flag.all = .ok (here, none) ∧ last? = none ∧
      ∀ step ∈ here, ∃ g ∈ Flag.early, step = .given g none := by
  have known : ∀ f, (Word.read Flag.all word).flag? = some f → f ∈ Flag.early := by
    rw [← same]
    exact fun f => Word.mem_early_of_read
  rw [same] at early
  exact Word.steps_early known early

theorem not_garbled_of_steps
    (h : (Word.read Flag.early word).steps Flag.early = .ok (here, last?)) : ¬ Garbled word := by
  rintro ⟨step, found⟩
  rw [h] at found
  cases found

theorem heard_of_steps (h : (Word.read Flag.early word).steps Flag.early = .ok (here, none)) :
    Heard e word ↔ Gives e here := by
  constructor
  · rintro ⟨heard, found, gives⟩
    rw [h] at found
    cases found
    exact gives
  · exact fun gives => ⟨here, h, gives⟩

/-- A word that early reading passes over gives no early option. -/
theorem not_heard_of_flag? (h : (Word.read Flag.early word).flag? = none) : ¬ Heard e word := by
  rw [heard_of_steps (Word.steps_of_flag?_eq_none h)]
  exact not_gives_nil

/-- **Early reading hears in a word what full reading finds there**, where it finds no fault. -/
theorem heard_iff (clear : ¬ Garbled word)
    (becomes : (Word.read Flag.all word).steps Flag.all = .ok (here, none))
    (passes : ∀ step ∈ here, step.Passes) (isEarly : e ∈ Flag.early) :
    Heard e word ↔ Gives e here := by
  obtain ⟨here', last?, early⟩ := exists_steps_of_not_garbled clear
  rcases Word.read_early word with same | ⟨none, late⟩
  · obtain ⟨full, rfl, -⟩ := full_steps same early
    rw [becomes] at full
    cases full
    exact heard_of_steps early
  · exact iff_of_false (not_heard_of_flag? none)
      ((Word.steps_late late becomes passes).1 e isEarly)

/-- An option that waits for its value behind others in one word is too much for early
reading. -/
theorem garbled_of_waiting (noValue : valueFlag? word = none)
    (becomes : (Word.read Flag.all word).steps Flag.all = .ok (here, some last))
    (passes : ∀ step ∈ here, step.Passes) : Garbled word := by
  by_contra clear
  obtain ⟨here', last?, early⟩ := exists_steps_of_not_garbled clear
  rcases Word.read_early word with same | ⟨none, late⟩
  · rw [(full_steps same early).1] at becomes
    cases becomes
  · rw [(Word.steps_late late becomes passes).2 last rfl] at noValue
    cases noValue

end CommandLine
end Recital
