/-
# Words behind a lone marker

Behind a lone `--` every word is a text, and so is the value of `--text`.  Both come to the
same step, the option `--text` with the word attached to it, and the word arrives as it is,
whatever it looks like, with one exception: the word `--` itself is lost.  In its place stands
the empty list, and the command line does not give a request.

| words | instructions | ends with |
| --- | --- | --- |
| `--`, then words without `--` | each word as a text | a request |
| `--`, then words with `--` among them | the same, but `lostText` for each `--` | `Halt.lossy` |
| `--text`, then a word other than `--` | the word as a text | a request |
| `--text --` | `lostText` | `Halt.lossy` |
-/

import Recital.Proofs.CommandLine.Item

namespace Recital
namespace CommandLine

/-! ### One word and many -/

/-- The instruction that a word comes to where it is a text. -/
def received (word : String) : Instruction :=
  if word = "--" then lostText else .text word

/-- The request of words that are texts. -/
def literalRequest (ws : List String) : Request := { instructions := ws.map received }

/-- What words that are texts end with. -/
def literalEnd (ws : List String) : Except Halt Request :=
  if "--" ∈ ws then .error (.lossy (literalRequest ws)) else .ok (literalRequest ws)

/-- The progress after one more word that is a text. -/
def Progress.received (p : Progress) (word : String) : Progress :=
  { p with
    request := p.request.added (CommandLine.received word)
    lossy := p.lossy || word == "--" }

theorem lostText_ne_text (word : String) : lostText ≠ .text word := by
  intro same
  cases same

/-- The words arrive as they are exactly if none of them is `--`. -/
theorem literalRequest_instructions_eq_iff {ws : List String} :
    (literalRequest ws).instructions = ws.map (fun w : String => Instruction.text w) ↔
      "--" ∉ ws := by
  have one (w : String) : received w = .text w ↔ w ≠ "--" := by
    by_cases lost : w = "--"
    · simp [received, lost, lostText_ne_text]
    · simp [received, lost]
  have each : (literalRequest ws).instructions = ws.map (fun w : String => Instruction.text w) ↔
      ∀ w ∈ ws, w ≠ "--" := by
    simp only [literalRequest, List.map_inj_left, one]
  rw [each]
  constructor
  · intro kept mem
    exact kept "--" mem rfl
  · intro noMarker w mem same
    exact noMarker (same ▸ mem)

section Steps

variable {s : Surroundings}

/-- A text is followed whatever it is, and `--` leaves its mark. -/
theorem useStep_text (word : String) (p : Progress) :
    (useStep s (.given .text (some word))).run p = (.ok (), p.received word) := by
  by_cases lost : word = "--"
  · subst lost
    have marked : (p.lossy || "--" == "--") = true := by simp
    rw [Progress.received, marked]
    rfl
  · have unmarked : (p.lossy || word == "--") = p.lossy := by simp [lost]
    rw [useStep_of_kept lost, Progress.received, unmarked, received, if_neg lost]
    rfl

theorem forM_useStep_texts (ws : List String) (p : Progress) :
    ((ws.map fun w => Step.given .text (some w)).forM (useStep s)).run p =
      (.ok (), ws.foldl Progress.received p) := by
  induction ws generalizing p with
  | nil => rfl
  | cons w ws ih =>
    rw [List.map_cons, List.foldl_cons, ← ih]
    exact ExceptT.run_bind_of_ok (useStep_text w p)

end Steps

/-- The progress after many words: their instructions stand behind the earlier ones, and it is
lossy if it was before or `--` is among them. -/
theorem foldl_received (ws : List String) (p : Progress) :
    ws.foldl Progress.received p =
      { p with
        request := { p.request with
          instructions := p.request.instructions ++ ws.map received }
        lossy := p.lossy || decide ("--" ∈ ws) } := by
  induction ws generalizing p with
  | nil => simp
  | cons w ws ih =>
    have mark : (p.lossy || w == "--" || decide ("--" ∈ ws)) =
        (p.lossy || decide ("--" ∈ w :: ws)) := by
      rw [Bool.or_assoc]
      congr 1
      by_cases lost : w = "--"
      · simp [lost]
      · simp [lost, Ne.symm lost]
    rw [List.foldl_cons, ih]
    simp [Progress.received, Request.added, mark]

/-- Steps that are texts end as their words do. -/
theorem useSteps_texts (s : Surroundings) (ws : List String) :
    ((useSteps s (ws.map fun w => Step.given .text (some w))).run {}).1 = literalEnd ws := by
  have run := forM_useStep_texts (s := s) ws {}
  rw [foldl_received] at run
  rw [useSteps, ExceptT.run_bind_of_ok run, literalEnd]
  by_cases lost : "--" ∈ ws
  · simp only [lost, if_true]
    rfl
  · simp only [lost, if_false]
    rfl

/-! ### Command lines -/

theorem read_marker (s : Surroundings) (ws : List String) :
    (read s ("--" :: ws)).1 = literalEnd ws := by
  have behind : steps Flag.all (promote ("--" :: ws)) =
      ws.map fun w => .given .text (some w) := by
    rw [steps, promote, promoteFrom_marker, stepsFrom_map_attach]
  rw [read, readWords, behind, useSteps_texts]

theorem read_text (s : Surroundings) (w : String) :
    (read s ["--text", w]).1 = literalEnd [w] := by
  have value : steps Flag.all (promote ["--text", w]) =
      [w].map fun w => .given .text (some w) := by
    have spelled : "--text" ∈ Flag.text.spellings := Flag.long_mem_spellings .text
    rw [steps, promote, promoteFrom_value spelled rfl, stepsFrom_attach rfl]
    rfl
  rw [read, readWords, value, useSteps_texts]

/-- **A word that is a text arrives as it is, unless it is `--`.**  Whatever the surroundings,
words behind a lone `--` and the value of `--text` end as `literalEnd` has it.  They give a
request unless `--` is among them, and the instructions are the texts of the words, in order,
exactly then. -/
theorem read_literal (s : Surroundings) (ws : List String) (w : String) :
    (read s ("--" :: ws)).1 = literalEnd ws ∧ (read s ["--text", w]).1 = literalEnd [w] ∧
      ((literalRequest ws).instructions = ws.map (fun w : String => Instruction.text w) ↔
        "--" ∉ ws) :=
  ⟨read_marker s ws, read_text s w, literalRequest_instructions_eq_iff⟩

/-- Behind the marker, or as the value of `--text`, the marker itself is not a text: what is
asked for holds the empty list instead, and is no request. -/
theorem marker_lost :
    (read {} ["--", "--"]).1 = .error (.lossy { instructions := [lostText] }) ∧
      (read {} ["--text", "--"]).1 = .error (.lossy { instructions := [lostText] }) ∧
      [lostText] ≠ [.text "--"] := by
  have lost : literalEnd ["--"] = .error (.lossy { instructions := [lostText] }) := rfl
  refine ⟨?_, ?_, ?_⟩
  · exact (read_marker {} ["--"]).trans lost
  · exact (read_text {} "--").trans lost
  · intro same
    exact lostText_ne_text "--" (List.cons.inj same).1

end CommandLine
end Recital
