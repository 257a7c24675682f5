/-
# The prompts of segments

What is printed and what is spoken is a sequence of prompts.  A regular segment is a prompt
itself; live input makes a prompt of each line that is not blank.  All lines that there are
go to the first segment that reads live input, and the segments behind it find none:

| segment | prompts | lines that it leaves |
| --- | --- | --- |
| regular | itself | all |
| live input | one for each line that is not blank | none |

Each prompt of compiled segments has a text, can be written and has a prosody for each of its
runs (`sayable_of_mem_prompts`).
-/

import Recital.Proofs.Compilation

namespace Recital

/-- The lines that are said. -/
def heardLines (lines : List String) : List String :=
  lines.filter fun line => !Text.isBlankText line

namespace Segment

/-- The prompts of a segment where these lines of input are left. -/
def prompts (s : Segment) (lines : List String) : List Segment :=
  match s.interactive with
  | none => [s]
  | some context => (heardLines lines).map fun line : String => context.prompt line s.volume

/-- The lines of input that a segment leaves. -/
def linesLeft (s : Segment) (lines : List String) : List String :=
  match s.interactive with
  | none => lines
  | some _ => []

end Segment

/-- A segment with its prompts. -/
structure Scene where
  segment : Segment
  prompts : List Segment

/-- Segments with their prompts, where these lines of input are left. -/
def scenes (lines : List String) : List Segment → List Scene
  | [] => []
  | s :: segments => ⟨s, s.prompts lines⟩ :: scenes (s.linesLeft lines) segments

/-- The prompts of segments, where these lines of input are left. -/
def prompts (lines : List String) (segments : List Segment) : List Segment :=
  (scenes lines segments).flatMap Scene.prompts

theorem prompts_cons (lines : List String) (s : Segment) (segments : List Segment) :
    prompts lines (s :: segments) = s.prompts lines ++ prompts (s.linesLeft lines) segments := rfl

/-- Where no lines are left live input has no prompts. -/
theorem prompts_without_lines (segments : List Segment) :
    prompts [] segments = segments.filter fun s => s.interactive.isNone := by
  induction segments with
  | nil => rfl
  | cons s segments ih =>
    rw [prompts_cons, Segment.prompts, Segment.linesLeft]
    cases live : s.interactive with
    | none =>
      rw [List.filter_cons_of_pos (by simp [live])]
      exact congrArg (s :: ·) ih
    | some context =>
      rw [List.filter_cons_of_neg (by simp [live])]
      exact ih

/-- **The first live input gets all lines,** and those behind it get none. -/
theorem prompts_around_live (lines : List String) {before after : List Segment} {s : Segment}
    {context : Context} (regular : ∀ t ∈ before, t.interactive = none)
    (live : s.interactive = some context) :
    prompts lines (before ++ s :: after) =
      before ++ ((heardLines lines).map fun line : String => context.prompt line s.volume) ++
        after.filter fun t => t.interactive.isNone := by
  induction before with
  | nil =>
    rw [List.nil_append, prompts_cons, Segment.prompts, Segment.linesLeft, live,
      prompts_without_lines]
    rfl
  | cons t before ih =>
    obtain ⟨here, later⟩ := List.forall_mem_cons.1 regular
    rw [List.cons_append, prompts_cons, Segment.prompts, Segment.linesLeft, here]
    exact congrArg (t :: ·) (ih later)

/-- Whether a segment is a prompt that can be printed and spoken. -/
structure Segment.Sayable (s : Segment) : Prop where
  hasText : s.hasText
  rendered : s.Rendered

/-- The prompt of a line has the line for a text. -/
theorem hasText_prompt (context : Context) (line : Words) (volume : Int) :
    (context.prompt line volume).hasText := by
  simp [Context.prompt, Segment.hasText, Draft.closeAll, Draft.say, Event.words?]

/-- Compiled segments are complete and can be delivered. -/
theorem deliverable_of_compile {chooser : Chooser} {xs : List Instruction}
    {segments : List Segment} (ok : (compile chooser xs).result = .ok segments) {s : Segment}
    (mem : s ∈ segments) : s.Settled ∧ s.Deliverable := by
  obtain ⟨expanded, -, built⟩ := exists_built_of_compile ok
  have settled := settled_of_buildSegments built s mem
  exact ⟨settled, (inRange_of_buildSegments built s mem).deliverable settled⟩

/-- **The prompts of a segment can be said,** whatever lines of input there are. -/
theorem Segment.Deliverable.sayable {s : Segment} (h : s.Deliverable) (settled : s.Settled)
    (lines : List String) : ∀ prompt ∈ s.prompts lines, prompt.Sayable := by
  intro prompt mem
  rw [prompts] at mem
  split at mem
  · rename_i regular
    obtain rfl := List.mem_singleton.1 mem
    have hasText : prompt.hasText := by
      rcases settled.purpose with ⟨live, -⟩ | ⟨-, hasText⟩
      · rw [regular] at live
        cases live
      · exact hasText
    exact ⟨hasText, h.regular regular⟩
  · rename_i context live
    obtain ⟨line, -, rfl⟩ := List.mem_map.1 mem
    exact ⟨hasText_prompt context line s.volume, (h.live context live).2 line⟩

/-- **Each prompt of compiled segments can be said.** -/
theorem sayable_of_mem_prompts {chooser : Chooser} {xs : List Instruction}
    {segments : List Segment} (ok : (compile chooser xs).result = .ok segments)
    (lines : List String) : ∀ prompt ∈ prompts lines segments, prompt.Sayable := by
  have each : ∀ s ∈ segments, ∀ lines, ∀ prompt ∈ s.prompts lines, prompt.Sayable := by
    intro s mem lines
    obtain ⟨settled, deliverable⟩ := deliverable_of_compile ok mem
    exact deliverable.sayable settled lines
  clear ok
  induction segments generalizing lines with
  | nil => simp [prompts, scenes]
  | cons s segments ih =>
    rw [prompts_cons]
    exact List.forall_mem_append.2 ⟨each s List.mem_cons_self lines,
      ih _ fun t mem => each t (List.mem_cons_of_mem _ mem)⟩

end Recital
