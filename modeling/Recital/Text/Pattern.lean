/-
# Patterns

A token that is looked for again and again is prepared once.  While a text is read, the
front of the token that stands at the end of what was read is known by its length, the
greatest there is.  The next code point lengthens the front, or else a shorter front has to
do, one that is an end of the longer front itself; which one that is depends on the token
alone and is looked up.

| | |
| --- | --- |
| `Ends`, `EndsMost` | a front of the token at the end of a text, and the longest one |
| `Stage` | what a front waits for, and the next shorter front |
| `advance` | the longest front after one more code point |
| `Pattern` | a token and the stages of all its fronts |

A search looks at every code point of the text once and never goes back in it, and
`indexIn_eq` says that it finds what looking at one place after the other finds.
-/

import Recital.Text.Occurrence

namespace Recital
namespace Text

/-- Whether the first `k` code points of a token stand at the end of a text. -/
def Ends (token text : Words) (k : Nat) : Prop := k ≤ token.length ∧ token.take k <:+ text

/-- Whether `k` is the greatest number of code points of a token at the end of a text. -/
def EndsMost (token text : Words) (k : Nat) : Prop :=
  Ends token text k ∧ ∀ j, Ends token text j → j ≤ k

/-- The code point that a front of a token waits for, and the length of the longest shorter
front that stands at the end of this one. -/
structure Stage where
  expected : CodePoint
  retreat : Nat

/-- The length of the longest front at the end of a text after one more code point, where
it was `k` before. -/
def advance (stages : Array Stage) (x : CodePoint) (k : Nat) : Nat :=
  match stages[k]? with
  | none => 0
  | some stage =>
    if stage.expected = x then k + 1
    else if stage.retreat < k then advance stages x stage.retreat
    else 0
termination_by k

/-- The stages of a token behind those of a front of it, whose own retreat is known. -/
def stagesFrom (stages : Array Stage) (retreat : Nat) : (rest : Words) → Array Stage
  | [] => stages
  | x :: rest =>
    let next := if stages.isEmpty then 0 else advance stages x retreat
    stagesFrom (stages.push ⟨x, retreat⟩) next rest

/-- Whether stages are those of the shortest fronts of a token. -/
def Prepares (stages : Array Stage) (token : Words) : Prop :=
  ∀ k stage, stages[k]? = some stage →
    token[k]? = some stage.expected ∧ (0 < k → EndsMost token (token.take k).tail stage.retreat)

theorem ends_zero (token text : Words) : Ends token text 0 :=
  ⟨Nat.zero_le _, by simp⟩

theorem ends_concat (token text : Words) (x : CodePoint) (k : Nat) :
    Ends token (text ++ [x]) (k + 1) ↔ Ends token text k ∧ token[k]? = some x := by
  by_cases inside : k < token.length
  · unfold Ends
    rw [← List.take_append_getElem inside, List.getElem?_eq_getElem inside, ← List.reverse_prefix,
      List.reverse_append, List.reverse_append, List.reverse_singleton, List.reverse_singleton,
      List.singleton_append, List.singleton_append, List.cons_prefix_cons, List.reverse_prefix,
      Option.some.injEq]
    constructor
    · exact fun h => ⟨⟨by omega, h.2.2⟩, h.2.1⟩
    · exact fun h => ⟨inside, h.2, h.1.2⟩
  · rw [List.getElem?_eq_none (by omega)]
    constructor
    · exact fun h => absurd h.1 (by omega)
    · exact fun h => nomatch h.2

theorem lt_of_ends_tail {token : Words} {j k : Nat} (positive : 0 < k)
    (h : Ends token (token.take k).tail j) : j < k := by
  have := h.2.length_le
  rw [List.length_tail, List.length_take, List.length_take] at this
  have := h.1
  omega

theorem ends_of_tail {token text : Words} {j k : Nat} (long : Ends token text k)
    (h : Ends token (token.take k).tail j) : Ends token text j :=
  ⟨h.1, h.2.trans ((List.tail_suffix _).trans long.2)⟩

theorem ends_tail {token text : Words} {j k : Nat} (long : Ends token text k)
    (short : Ends token text j) (lt : j < k) : Ends token (token.take k).tail j := by
  refine ⟨short.1, List.suffix_of_suffix_length_le short.2
    ((List.tail_suffix _).trans long.2) ?_⟩
  have := long.1
  rw [List.length_tail, List.length_take, List.length_take]
  omega

/-- **The longest front that goes on** is the longest front after one more code point:
every longer one waits for another. -/
theorem endsMost_advance {stages : Array Stage} {token text : Words} {x : CodePoint} {k : Nat}
    (prepares : Prepares stages token) (inside : k < stages.size) (ends : Ends token text k)
    (longer : ∀ j, k < j → Ends token text j → token[j]? ≠ some x) :
    EndsMost token (text ++ [x]) (advance stages x k) := by
  induction k using Nat.strongRecOn with
  | ind k ih =>
    have found : stages[k]? = some stages[k] := Array.getElem?_eq_getElem inside
    obtain ⟨waits, shorter⟩ := prepares k _ found
    unfold advance
    rw [found]
    dsimp only
    split
    · rename_i same
      refine ⟨(ends_concat ..).2 ⟨ends, by rw [waits, same]⟩, fun j front => ?_⟩
      cases j with
      | zero => omega
      | succ j =>
        obtain ⟨front, next⟩ := (ends_concat ..).1 front
        refine Nat.succ_le_succ (Nat.le_of_not_lt fun lt => longer j lt front next)
    · rename_i other
      have stuck : ∀ j, k ≤ j → Ends token text j → token[j]? ≠ some x := by
        intro j le front next
        rcases Nat.eq_or_lt_of_le le with rfl | lt
        · rw [waits] at next
          exact other (Option.some.inj next)
        · exact longer j lt front next
      by_cases zero : k = 0
      · rw [if_neg (by omega)]
        refine ⟨ends_zero .., fun j front => ?_⟩
        cases j with
        | zero => omega
        | succ j =>
          obtain ⟨front, next⟩ := (ends_concat ..).1 front
          exact absurd next (stuck j (by omega) front)
      · have most := shorter (by omega)
        have lt := lt_of_ends_tail (by omega) most.1
        rw [if_pos lt]
        refine ih _ lt (by omega) (ends_of_tail ends most.1) fun j behind front next => ?_
        by_cases le : k ≤ j
        · exact stuck j le front next
        · have := most.2 j (ends_tail ends front (by omega))
          omega

theorem endsMost_nil (token : Words) : EndsMost token [] 0 := by
  refine ⟨ends_zero .., fun j front => ?_⟩
  have := front.2.length_le
  have := front.1
  rw [List.length_take, List.length_nil] at *
  omega

theorem prepares_stagesFrom {stages : Array Stage} {token front rest : Words} {retreat : Nat}
    (whole : token = front ++ rest) (size : stages.size = front.length)
    (prepares : Prepares stages token) (most : EndsMost token front.tail retreat) :
    (stagesFrom stages retreat rest).size = token.length ∧
      Prepares (stagesFrom stages retreat rest) token := by
  induction rest generalizing stages front retreat with
  | nil =>
    refine ⟨?_, prepares⟩
    rw [stagesFrom, size, whole, List.append_nil]
  | cons x rest ih =>
    unfold stagesFrom
    refine ih (show token = (front ++ [x]) ++ rest by simp [whole]) (by simp [size]) ?_ ?_
    · intro k stage found
      rw [Array.getElem?_push] at found
      split at found
      · rename_i last
        obtain rfl := Option.some.inj found
        rw [last, size, whole]
        refine ⟨by simp, fun _ => ?_⟩
        rw [List.take_left, ← whole]
        exact most
      · exact prepares k stage found
    · by_cases empty : front = []
      · have first : stages.isEmpty = true := by
          rw [Array.isEmpty_iff_size_eq_zero, size, empty, List.length_nil]
        rw [if_pos first, empty]
        exact endsMost_nil token
      · have long : 0 < front.length := List.length_pos_iff.2 empty
        have later : ¬ stages.isEmpty = true := by
          rw [Array.isEmpty_iff_size_eq_zero, size]
          omega
        rw [if_neg later, List.tail_append_of_ne_nil empty]
        have short := most.1.2.length_le
        have bound := most.1.1
        rw [List.length_take, List.length_tail] at short
        exact endsMost_advance prepares (by omega) most.1 fun j lt front _ => by
          have := most.2 j front
          omega

/-- A token and the stages of all its fronts. -/
structure Pattern where
  token : Words
  stages : Array Stage
  stages_size : stages.size = token.length
  prepared : Prepares stages token

namespace Pattern

/-- The number of code points of the token. -/
def size (p : Pattern) : Nat := p.stages.size

theorem size_eq (p : Pattern) : p.size = p.token.length := p.stages_size

/-- The pattern of a token. -/
def ofWords (token : Words) : Pattern :=
  have prepared : (stagesFrom #[] 0 token).size = token.length ∧
      Prepares (stagesFrom #[] 0 token) token :=
    prepares_stagesFrom (List.nil_append token).symm rfl (fun k stage found => by simp at found)
      (endsMost_nil token)
  ⟨token, stagesFrom #[] 0 token, prepared.1, prepared.2⟩

/-- The first index at which the token stands in a text, of which `i` code points were read
and at most `count` of `rest` are still to be read, where the first `k` code points of the
token stand at the end of what was read. -/
def indexFrom (p : Pattern) (k i : Nat) : (count : Nat) → (rest : Words) → Option Nat
  | count + 1, x :: rest =>
    if k = p.size then some (i - k)
    else indexFrom p (advance p.stages x k) (i + 1) count rest
  | _, _ => if k = p.size then some (i - k) else none

/-- The first index at which the token stands in the first `count` code points of a text. -/
def indexIn (p : Pattern) (count : Nat) (text : Words) : Option Nat := p.indexFrom 0 0 count text

theorem indexOf?_of_whole {token text : Words} (rest : Words) (ends : token <:+ text)
    (before : ∀ j < text.length, ¬ token <:+ text.take j) :
    indexOf? token (text ++ rest) = some (text.length - token.length) := by
  refine (indexOf?_eq_some_iff ..).2 ⟨?_, fun j lt stands => ?_⟩
  · rw [List.drop_append_of_le_length (Nat.sub_le ..), ← List.suffix_iff_eq_drop.1 ends]
    exact List.prefix_append ..
  · have le := ends.length_le
    refine before (j + token.length) (by omega) ?_
    rw [List.drop_append_of_le_length (by omega)] at stands
    have inside : token <+: text.drop j :=
      List.prefix_of_prefix_length_le stands (List.prefix_append ..)
        (by rw [List.length_drop]; omega)
    have same : token = (text.take (j + token.length)).drop j := by
      rw [List.drop_take, Nat.add_sub_cancel_left]
      exact List.prefix_iff_eq_take.1 inside
    have tail := List.drop_suffix j (text.take (j + token.length))
    rwa [← same] at tail

theorem indexOf?_of_ends {token text : Words} {k : Nat} (most : EndsMost token text k)
    (before : ∀ j < text.length, ¬ token <:+ text.take j) :
    (if k = token.length then some (text.length - k) else none) = indexOf? token text := by
  split
  · rename_i whole
    have ends := most.1.2
    rw [whole, List.take_length] at ends
    rw [whole, ← List.append_nil text, indexOf?_of_whole [] ends before, List.append_nil]
  · rename_i part
    refine ((indexOf?_eq_none_iff token text).2 fun ⟨front, back, same⟩ => ?_).symm
    have stands : token <:+ text.take (front.length + token.length) := by
      rw [← same, List.take_left' (List.length_append ..)]
      exact List.suffix_append ..
    by_cases inside : front.length + token.length < text.length
    · exact before _ inside stands
    · rw [List.take_of_length_le (by omega)] at stands
      have := most.2 token.length ⟨Nat.le_refl _, by rwa [List.take_length]⟩
      have := most.1.1
      omega

theorem indexFrom_eq (p : Pattern) {text : Words} {k : Nat} (count : Nat) (rest : Words)
    (most : EndsMost p.token text k) (before : ∀ j < text.length, ¬ p.token <:+ text.take j) :
    p.indexFrom k text.length count rest = indexOf? p.token (text ++ rest.take count) := by
  induction rest generalizing text k count with
  | nil =>
    rw [List.take_nil, List.append_nil, ← indexOf?_of_ends most before, ← p.size_eq]
    cases count <;> rfl
  | cons x rest ih =>
    cases count with
    | zero =>
      rw [List.take_zero, List.append_nil, ← indexOf?_of_ends most before, ← p.size_eq]
      rfl
    | succ count =>
      unfold indexFrom
      split
      · rename_i whole
        rw [p.size_eq] at whole
        have ends := most.1.2
        rw [whole, List.take_length] at ends
        rw [whole, indexOf?_of_whole _ ends before]
      · rename_i part
        have small : k < p.size := by
          have := most.1.1
          rw [p.size_eq] at part ⊢
          omega
        have next := endsMost_advance (x := x) p.prepared small most.1 fun j lt front _ => by
          have := most.2 j front
          omega
        have := ih count next fun j lt stands => by
          rw [List.length_append, List.length_singleton] at lt
          rw [List.take_append_of_le_length (by omega)] at stands
          rcases Nat.eq_or_lt_of_le (Nat.le_of_lt_succ lt) with rfl | lt
          · rw [List.take_length] at stands
            have := most.2 p.token.length ⟨Nat.le_refl _, by rwa [List.take_length]⟩
            rw [p.size_eq] at small
            omega
          · exact before j lt stands
        rw [List.length_append, List.length_singleton, List.append_assoc] at this
        rw [this, List.take_succ_cons]
        rfl

/-- **A search finds what looking at one place after the other finds.** -/
theorem indexIn_eq (p : Pattern) (count : Nat) (text : Words) :
    p.indexIn count text = indexOf? p.token (text.take count) :=
  p.indexFrom_eq count text (endsMost_nil p.token) fun _ lt => nomatch lt

end Pattern

/-- Whether one text occurs in another. -/
def occursIn (token text : Words) : Bool :=
  ((Pattern.ofWords token).indexIn text.length text).isSome

/-- **A token occurs in a text when the text has it as a stretch.** -/
theorem occursIn_iff (token text : Words) : occursIn token text = true ↔ token <:+: text := by
  rw [occursIn, Pattern.indexIn_eq, List.take_length, Option.isSome_iff_ne_none, ne_eq,
    indexOf?_eq_none_iff, Decidable.not_not]
  rfl

end Text
end Recital
