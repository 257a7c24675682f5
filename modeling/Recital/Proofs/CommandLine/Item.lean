/-
# Command lines made of items

An item is a few words that belong together and stand for instructions:

| item | words | instructions |
| --- | --- | --- |
| `bare` | a word without a dash in front | the text |
| `switch` | an option without a value | one or none, by the option |
| `next` | an option, and its value as the next word | one or none, by the option |
| `attached` | an option, `=`, and its value, in one word | the same |

A line is a row of items, behind which a lone `--` and more texts may stand.  Its words are
read as its instructions, in order, and texts as they are, whatever they look like
(`read_line`).  The value `--` is lost on its way to its option, and a decimal of too many
digits is not read, so neither is part of an item.
-/

import Recital.Proofs.CommandLine.Following
import Recital.Proofs.CommandLine.Spelling
import Recital.Proofs.Instruction.Loop
import Recital.Proofs.Text.Decimal

namespace Recital
namespace CommandLine

open Text (Decimal digitLimit)

/-! ### Items -/

/-- The instructions that an option without a value stands for.  The two options that print
something and end the work stand for none. -/
def Flag.switch? : Flag → Option (List Instruction)
  | .reset => some [.reset]
  | .sentence => some [.beginSentence]
  | .endSentence => some [.endSentence]
  | .paragraph => some [.beginParagraph]
  | .endParagraph => some [.endParagraph]
  | .interactive => some [.interactive]
  | .verbose | .onlineVoices | .listVoices | .ssml => some []
  | _ => none

/-- The instructions that an option with a value stands for. -/
inductive Flag.Denotes : Flag → String → List Instruction → Prop where
  | text {value : String} (kept : value ≠ "--") : Denotes .text value [.text value]
  | dial {dial : Dial} {d : Decimal} {level : dial.Level}
      (short : d.digits.length ≤ digitLimit) (isLevel : d.value = level.val) :
      Denotes (.dial dial) d.text [.turn dial level]
  | loop {rounds : Repeat} {d : Decimal} (short : d.digits.length ≤ digitLimit)
      (isCount : d.value = rounds.count) : Denotes (.loop rounds.fade) d.text [.loop rounds]
  | seed {d : Decimal} (short : d.digits.length ≤ digitLimit) : Denotes .seed d.text []
  | output {value : String} (kept : value ≠ "--") : Denotes .output value []
  | defaultVoice {value : String} (kept : value ≠ "--") : Denotes .defaultVoice value []

/-- An item of a command line. -/
inductive Item where
  | bare (word : String) (noDash : word.toList.head? ≠ some '-')
  | switch (f : Flag) (word : String) (xs : List Instruction) (spells : word ∈ f.spellings)
      (stands : f.switch? = some xs)
  | next (f : Flag) (word value : String) (xs : List Instruction) (spells : word ∈ f.spellings)
      (denotes : f.Denotes value xs)
  | attached (f : Flag) (word value : String) (xs : List Instruction)
      (spells : word ∈ f.spellings) (denotes : f.Denotes value xs)

namespace Item

/-- The words of an item. -/
def words : Item → List String
  | .bare word _ => [word]
  | .switch _ word .. => [word]
  | .next _ word value .. => [word, value]
  | .attached _ word value .. => [word ++ "=" ++ value]

/-- The instructions that an item stands for. -/
def instructions : Item → List Instruction
  | .bare word _ => [.text word]
  | .switch _ _ xs .. => xs
  | .next _ _ _ xs .. => xs
  | .attached _ _ _ xs .. => xs

/-- The step that the words of an item become. -/
def step : Item → Step
  | .bare word _ => .given .text (some word)
  | .switch f .. => .given f none
  | .next f _ value .. => .given f (some value)
  | .attached f _ value .. => .given f (some value)

end Item

/-- A command line: items, and the texts behind a lone `--` if there is one. -/
structure Line where
  items : List Item
  literal : Option { ws : List String // "--" ∉ ws }

namespace Line

/-- The words of a line. -/
def words (l : Line) : List String :=
  l.items.flatMap Item.words ++ match l.literal with
    | some ws => "--" :: ws.val
    | none => []

/-- The texts behind a lone `--`. -/
def texts (l : Line) : List String :=
  match l.literal with
  | some ws => ws.val
  | none => []

theorem noMarker (l : Line) : "--" ∉ l.texts := by
  rw [texts]
  split
  · next ws _ => exact ws.property
  · exact List.not_mem_nil

/-- The instructions of a line. -/
def instructions (l : Line) : List Instruction :=
  l.items.flatMap Item.instructions ++ l.texts.map fun word : String => .text word

end Line

/-! ### From words to steps -/

theorem Flag.takesValue_of_switch? {f : Flag} {xs : List Instruction} (h : f.switch? = some xs) :
    f.takesValue = false := by
  cases f <;> first | rfl | cases h

theorem Flag.Denotes.takesValue {f : Flag} {value : String} {xs : List Instruction}
    (h : f.Denotes value xs) : f.takesValue = true := by
  cases h <;> rfl

/-- An option and its value, in two words or attached in one, become one step. -/
theorem stepsFrom_given {f : Flag} {word : String} (spells : word ∈ f.spellings)
    (takes : f.takesValue = true) (value : String) {given : List String}
    (form : given = [word, value] ∨ given = [word ++ "=" ++ value]) (words : List String) :
    stepsFrom Flag.all none (promoteFrom none (given ++ words)) =
      .given f (some value) :: stepsFrom Flag.all none (promoteFrom none words) := by
  rcases form with rfl | rfl
  · change stepsFrom _ _ (promoteFrom _ (word :: value :: words)) = _
    rw [promoteFrom_value spells takes, stepsFrom_attach takes]
  · rw [List.singleton_append, promoteFrom_attached spells, stepsFrom_attached spells takes]

/-- The words of an item become its step, whatever words follow them. -/
theorem stepsFrom_item (i : Item) (words : List String) :
    stepsFrom Flag.all none (promoteFrom none (i.words ++ words)) =
      i.step :: stepsFrom Flag.all none (promoteFrom none words) := by
  cases i with
  | bare word noDash =>
    rw [Item.words, List.singleton_append, promoteFrom_bare noDash, stepsFrom_attach rfl]
    rfl
  | switch f word xs spells stands =>
    have takes := Flag.takesValue_of_switch? stands
    obtain ⟨c, cs, shape, -, noMarker⟩ := Flag.spelling_shape spells
    have noValue : valueFlag? word = none := by
      rw [valueFlag?, Flag.spelled?_all spells, Option.filter_some, takes]
      rfl
    rw [Item.words, List.singleton_append,
      promoteFrom_dashed (by rw [shape]; rfl) noMarker noValue, stepsFrom_switch spells takes]
    rfl
  | next f word value xs spells denotes =>
    exact stepsFrom_given spells denotes.takesValue value (.inl rfl) words
  | attached f word value xs spells denotes =>
    exact stepsFrom_given spells denotes.takesValue value (.inr rfl) words

/-- The words of items become their steps, whatever words follow them. -/
theorem stepsFrom_items (items : List Item) (words : List String) :
    stepsFrom Flag.all none (promoteFrom none (items.flatMap Item.words ++ words)) =
      items.map Item.step ++ stepsFrom Flag.all none (promoteFrom none words) := by
  induction items with
  | nil => rfl
  | cons i items ih =>
    rw [List.flatMap_cons, List.append_assoc, stepsFrom_item, ih]
    rfl

theorem steps_line (l : Line) :
    steps Flag.all (promote l.words) =
      l.items.map Item.step ++ l.texts.map fun word => .given .text (some word) := by
  obtain ⟨items, literal⟩ := l
  rw [steps, promote, Line.words, stepsFrom_items]
  cases literal with
  | none => rfl
  | some ws =>
    dsimp only
    rw [promoteFrom_marker, stepsFrom_map_attach]
    rfl

/-! ### From steps to the request -/

/-- The request with an instruction more. -/
def Request.added (r : Request) (x : Instruction) : Request :=
  { r with instructions := r.instructions ++ [x] }

theorem Request.adds_added (r : Request) (x : Instruction) : r.Adds [x] (r.added x) :=
  ⟨rfl, List.Subset.refl _⟩

theorem Request.lost_kept (r : Request) (f : Flag) : (r.kept f).lost ⊆ r.lost :=
  List.filter_subset_self _

/-- An option that is only kept adds nothing. -/
theorem Request.adds_nil {r r' : Request} (same : r'.instructions = r.instructions)
    (lost : r'.lost ⊆ r.lost) : r.Adds [] r' :=
  ⟨same.trans (List.append_nil _).symm, lost⟩

section Steps

variable {s : Surroundings}

theorem Step.adds_of_kept {f : Flag} {value : String} {xs : List Instruction}
    (kept : value ≠ "--")
    (h : ∀ p : Progress, ∃ r : Request,
      (useFlag s f value).run p = (.ok (), { p with request := r }) ∧ p.request.Adds xs r) :
    Step.Adds s (.given f (some value)) xs := by
  intro p
  obtain ⟨r, run, added⟩ := h p
  exact ⟨r, by rw [useStep_of_kept kept, run], added⟩

theorem Step.adds_text {word : String} (kept : word ≠ "--") :
    Step.Adds s (.given .text (some word)) [.text word] :=
  adds_of_kept kept fun p => ⟨_, rfl, p.request.adds_added _⟩

theorem Step.adds_of_switch {f : Flag} {xs : List Instruction} (h : f.switch? = some xs) :
    Step.Adds s (.given f none) xs := by
  intro p
  cases f <;> first
    | cases h; exact ⟨_, rfl, p.request.adds_added _⟩
    | cases h; exact ⟨_, rfl, Request.adds_nil rfl (List.Subset.refl _)⟩
    | cases h

theorem Step.adds_of_denotes {f : Flag} {value : String} {xs : List Instruction}
    (h : f.Denotes value xs) : Step.Adds s (.given f (some value)) xs := by
  cases h with
  | text kept => exact adds_text kept
  | output kept =>
    exact adds_of_kept kept fun _ => ⟨_, rfl, Request.adds_nil rfl (Request.lost_kept _ _)⟩
  | defaultVoice kept =>
    exact adds_of_kept kept fun _ => ⟨_, rfl, Request.adds_nil rfl (Request.lost_kept _ _)⟩
  | @seed d short =>
    refine adds_of_kept d.text_ne_marker fun p =>
      ⟨{ p.request.kept .seed with seed := some d.value }, ?_,
        Request.adds_nil rfl (Request.lost_kept _ _)⟩
    rw [useFlag, d.wholeNumber?_text, if_pos short]
    rfl
  | @dial dial d level short isLevel =>
    refine adds_of_kept d.text_ne_marker fun p => ⟨_, ?_, p.request.adds_added _⟩
    rw [useFlag, d.wholeNumber?_text, if_pos short, isLevel]
    dsimp only
    rw [Instruction.ofLevel_eq_ok.2 ⟨level, rfl, rfl⟩]
    rfl
  | @loop rounds d short isCount =>
    refine adds_of_kept d.text_ne_marker fun p => ⟨_, ?_, p.request.adds_added _⟩
    rw [useFlag, d.wholeNumber?_text, if_pos short, isCount]
    dsimp only
    rw [show Instruction.ofCount (.integer rounds.count) (.ok rounds.fade) = .ok (.loop rounds)
      from dif_pos rounds.positive]
    rfl

theorem Item.adds (i : Item) : i.step.Adds s i.instructions := by
  cases i with
  | bare word noDash =>
    refine Step.adds_text ?_
    rintro rfl
    exact noDash rfl
  | switch f word xs spells stands => exact Step.adds_of_switch stands
  | next f word value xs spells denotes => exact Step.adds_of_denotes denotes
  | attached f word value xs spells denotes => exact Step.adds_of_denotes denotes

theorem Item.adds_items (items : List Item) :
    List.Forall₂ (Step.Adds s) (items.map Item.step) (items.map Item.instructions) := by
  rw [List.forall₂_map_left_iff, List.forall₂_map_right_iff, List.forall₂_same]
  exact fun i _ => i.adds

end Steps

/-- **A line is read as its instructions.**  Whatever the surroundings, the words of a line
give a request, whose instructions are those of the items and the texts behind them, in
order. -/
theorem read_line (s : Surroundings) (l : Line) :
    ∃ request progress, read s l.words = (.ok request, progress) ∧
      request.instructions = l.instructions := by
  have texts : List.Forall₂ (Step.Adds s) (l.texts.map fun word => .given .text (some word))
      (l.texts.map fun word : String => [.text word]) := by
    rw [List.forall₂_map_left_iff, List.forall₂_map_right_iff, List.forall₂_same]
    intro word mem
    refine Step.adds_text ?_
    rintro rfl
    exact l.noMarker mem
  obtain ⟨r, run, added⟩ :=
    exists_useSteps_of_adds (List.rel_append (Item.adds_items l.items) texts)
  refine ⟨r, { request := r }, ?_, ?_⟩
  · rw [read, readWords, steps_line, run]
  · have flat : (l.texts.map fun word : String => [Instruction.text word]).flatten =
        l.texts.map fun word : String => .text word := by
      rw [← List.flatMap_def, ← List.map_eq_flatMap]
    rw [added, List.flatten_append, flat, Line.instructions, List.flatMap_def]

/-- A text that spells an option, a level that is attached, and a text behind `--`. -/
example : ∃ l : Line, l.words = ["hi", "-t", "--reset", "--rate=3", "--", "-v"] ∧
    l.instructions = [.text "hi", .text "--reset", .turn .rate 3, .text "-v"] :=
  let three : Decimal := ⟨.none, [⟨3, by decide⟩], List.cons_ne_nil _ _⟩
  ⟨⟨[.bare "hi" (by decide), .next .text "-t" "--reset" _ (by decide) (.text (by decide)),
      .attached (.dial .rate) "--rate" three.text _ (by decide) (.dial (by decide) rfl)],
    some ⟨["-v"], by decide⟩⟩, by decide, rfl⟩

/-! ### Decimals that are too long -/

/-- A decimal of too many digits is refused, whatever it stands for. -/
theorem read_dial_of_long (s : Surroundings) (dial : Dial) {d : Decimal}
    (long : digitLimit < d.digits.length) :
    (read s [(Flag.dial dial).long, d.text]).1 =
      .error (.complaint (.unsuitable (.dial dial) (.notANumberTo dial.top))) := by
  have given : steps Flag.all (promote [(Flag.dial dial).long, d.text]) =
      [.given (.dial dial) (some d.text)] := by
    rw [steps, promote, promoteFrom_value (Flag.long_mem_spellings _) rfl, stepsFrom_attach rfl]
    rfl
  have run : (useStep s (.given (.dial dial) (some d.text))).run {} =
      (.error (.complaint (.unsuitable (.dial dial) (.notANumberTo dial.top))), {}) := by
    rw [useStep_of_kept d.text_ne_marker, useFlag, d.wholeNumber?_text,
      if_neg (Nat.not_le.2 long)]
    rfl
  rw [read, readWords, given, useSteps, List.forM_eq_forM, List.forM_cons]
  rw [ExceptT.run_bind_of_error (ExceptT.run_bind_of_error run)]

/-- The decimal 3, with so many zeros in front that it is too long to be read. -/
def longThree : Decimal := Decimal.padded digitLimit ⟨.none, [⟨3, by decide⟩], List.cons_ne_nil _ _⟩

/-- A rate of 3 is within its range, and is refused all the same where it is written with too
many digits. -/
theorem longThree_refused :
    longThree.value = (3 : Dial.Level .rate).val ∧
      ∀ request, (read {} ["--rate", longThree.text]).1 ≠ .ok request := by
  constructor
  · exact Decimal.value_padded _ _
  · intro request same
    have long : digitLimit < longThree.digits.length := by
      rw [longThree, Decimal.padded, List.length_append, List.length_replicate]
      exact Nat.lt_succ_self _
    have refused : (read {} ["--rate", longThree.text]).1 = _ := read_dial_of_long {} .rate long
    rw [refused] at same
    cases same

end CommandLine
end Recital
