/-
# Reading a list of instructions out

`Reader` is what a person keeps in mind who reads a list of instructions out: the voice,
the style and the volume in force and the sentences and paragraphs that are open.  There
are no scopes, no segments and nothing that waits: a reset restores the volume at once, and
a change of volume merely ends the sentences and paragraphs.

| instruction | settings | nesting | passage |
| --- | --- | --- | --- |
| text, template | | | its words |
| voice, dial | the one it names | of a new output volume: emptied | |
| begin | | the kind closed, then opened | |
| end | | the kind closed, which must be open | |
| interactive | | emptied | live input |
| reset | all back to the defaults | emptied | |

So reading one list after another is reading them in one go (`read_append`), which is all
that a list has to do with what stands before it.
-/

import Recital.Proofs.Draft.Passage

namespace Recital

/-- The settings in force and the structural scopes that are open, innermost first. -/
structure Reader where
  voice : Option Voice := none
  style : Style := {}
  volume : Int := fullVolume
  nesting : List Kind := []
  chooser : Chooser

namespace Reader

/-- The passage of words said now. -/
def passage (r : Reader) (words : Words) : Passage where
  words := some words
  volume := r.volume
  voice := r.voice
  style := r.style
  nesting := r.nesting.reverse

/-- Turns a dial. -/
def turn (r : Reader) (dial : Dial) (level : Int) : Reader :=
  match dial with
  | .rate => { r with style := { r.style with rate := level } }
  | .emphasis => { r with style := { r.style with emphasis := level } }
  | .voiceVolume => { r with style := { r.style with volume := level } }
  | .outputVolume =>
    { r with volume := level, nesting := if level = r.volume then r.nesting else [] }

/-- Begins a sentence or paragraph. -/
def begin (r : Reader) (kind : Kind) : Reader :=
  { r with nesting := kind :: kind.close r.nesting }

/-- Ends a sentence or paragraph. -/
def finish (r : Reader) (kind : Kind) : Except Error (List Passage × Reader) :=
  if kind ∈ r.nesting then .ok ([], { r with nesting := kind.close r.nesting })
  else .error (.unmatchedEnd kind)

/-- What an instruction makes a reader say, and the reader after it. -/
def step (r : Reader) : Instruction → Except Error (List Passage × Reader)
  | .text words => .ok ([r.passage words], r)
  | .template document =>
    match (Template.expandDocument document Template.start).run r.chooser with
    | (.ok words, chooser) => .ok ([r.passage words], { r with chooser := chooser })
    | (.error fault, _) => .error (.template fault)
  | .voice voice => .ok ([], { r with voice := voice })
  | .turn dial level => .ok ([], r.turn dial level.val)
  | .reset => .ok ([], { chooser := r.chooser })
  | .beginSentence => .ok ([], r.begin .sentence)
  | .endSentence => r.finish .sentence
  | .beginParagraph => .ok ([], r.begin .paragraph)
  | .endParagraph => r.finish .paragraph
  | .interactive =>
    .ok ([.ofContext r.volume ⟨r.voice, r.style⟩], { r with nesting := [] })
  | .loop _ => .error .unexpandedLoop
  | .foreign what => .error (.notAnInstruction what)

/-- What a list of instructions makes a reader say, and the reader after it, up to the
first instruction that fails. -/
def read (r : Reader) : List Instruction → Except Error (List Passage × Reader)
  | [] => .ok ([], r)
  | x :: xs => do
    let (said, r) ← r.step x
    let (more, r) ← r.read xs
    return (said ++ more, r)

/-- Ending a sentence or paragraph is silent and takes it off the nesting. -/
theorem finish_eq_ok {r next : Reader} {kind : Kind} {said : List Passage}
    (h : r.finish kind = .ok (said, next)) :
    said = [] ∧ next = { r with nesting := kind.close r.nesting } := by
  rw [Reader.finish] at h
  split at h
  · cases h
    exact ⟨rfl, rfl⟩
  · cases h

/-- A template that is followed says the words that are drawn for it. -/
theorem step_template_eq_ok {r next : Reader} {document : String} {said : List Passage}
    (h : r.step (.template document) = .ok (said, next)) :
    ∃ words chooser,
      (Template.expandDocument document Template.start).run r.chooser = (.ok words, chooser) ∧
      said = [r.passage words] ∧ next = { r with chooser := chooser } := by
  rw [Reader.step] at h
  split at h
  · rename_i words chooser drawn
    cases h
    exact ⟨words, chooser, drawn, rfl, rfl⟩
  · cases h

theorem read_cons (r : Reader) (x : Instruction) (xs : List Instruction) :
    r.read (x :: xs) = do
      let (said, r) ← r.step x
      let (more, r) ← r.read xs
      return (said ++ more, r) := rfl

theorem read_cons_ok {r next : Reader} {x : Instruction} {said : List Passage}
    (h : r.step x = .ok (said, next)) (xs : List Instruction) :
    r.read (x :: xs) = (next.read xs).map fun (more, r) => (said ++ more, r) := by
  rw [read_cons, h]
  change (next.read xs >>= fun m => pure (said ++ m.1, m.2)) = _
  cases next.read xs <;> rfl

theorem read_cons_error {r : Reader} {x : Instruction} {error : Error}
    (h : r.step x = .error error) (xs : List Instruction) :
    r.read (x :: xs) = .error error := by
  rw [read_cons, h]
  rfl

/-- What it takes to read a list that is not empty. -/
theorem read_cons_eq_ok {r last : Reader} {x : Instruction} {xs : List Instruction}
    {said : List Passage} (h : r.read (x :: xs) = .ok (said, last)) :
    ∃ first next more, r.step x = .ok (first, next) ∧ next.read xs = .ok (more, last) ∧
      said = first ++ more := by
  rw [read_cons] at h
  obtain ⟨⟨first, next⟩, step, h⟩ := Except.bind_eq_ok.1 h
  obtain ⟨⟨more, _⟩, rest, same⟩ := Except.bind_eq_ok.1 h
  cases same
  exact ⟨first, next, more, step, rest, rfl⟩

theorem read_singleton (r : Reader) (x : Instruction) : r.read [x] = r.step x := by
  cases step : r.step x with
  | error error => rw [read_cons_error step]
  | ok result =>
    rw [read_cons_ok step]
    exact congrArg (fun said => Except.ok (said, result.2)) (List.append_nil result.1)

/-- **Lists are read one after the other.** -/
theorem read_append (r : Reader) (xs ys : List Instruction) :
    r.read (xs ++ ys) = do
      let (said, r) ← r.read xs
      let (more, r) ← r.read ys
      return (said ++ more, r) := by
  induction xs generalizing r with
  | nil =>
    change r.read ys = (r.read ys >>= fun m => pure ([] ++ m.1, m.2))
    cases r.read ys <;> rfl
  | cons x xs ih =>
    rw [List.cons_append]
    cases step : r.step x with
    | error error => rw [read_cons_error step, read_cons_error step]; rfl
    | ok result =>
      obtain ⟨said, next⟩ := result
      rw [read_cons_ok step, read_cons_ok step, ih next]
      cases next.read xs with
      | error error => rfl
      | ok first =>
        change Except.map _ (first.2.read ys >>= fun m => pure (first.1 ++ m.1, m.2)) =
          (first.2.read ys >>= fun m => pure ((said ++ first.1) ++ m.1, m.2))
        cases first.2.read ys with
        | error error => rfl
        | ok second => exact congrArg (fun l => Except.ok (l, second.2)) (List.append_assoc ..).symm

/-- What it takes to read one list after another. -/
theorem read_append_eq_ok {r last : Reader} {xs ys : List Instruction} {said : List Passage}
    (h : r.read (xs ++ ys) = .ok (said, last)) :
    ∃ first next more, r.read xs = .ok (first, next) ∧ next.read ys = .ok (more, last) ∧
      said = first ++ more := by
  rw [read_append] at h
  obtain ⟨⟨first, next⟩, before, h⟩ := Except.bind_eq_ok.1 h
  obtain ⟨⟨more, _⟩, after, same⟩ := Except.bind_eq_ok.1 h
  cases same
  exact ⟨first, next, more, before, after, rfl⟩

end Reader
end Recital
