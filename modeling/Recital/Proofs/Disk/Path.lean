/-
# The parts of a path

A path is split behind its last `/`, and its last component at its last dot.  Both are the split
at the last of some separators: behind a front that is empty or ends in the separator stands a
rest without it (`exists_split`), and what is found is that rest (`behindLast_append`).

| what is split | into |
| --- | --- |
| a path | a folder that is empty or ends in `/`, and a component without `/` |
| a component `stem.rest`, with no dot in `rest` and more than dots in `stem` | `stem` and `.rest` |
| any other component | the component and nothing |

The components of a path are those of the folder, and the last one (`components_append`).
-/

import Recital.Disk.Path
import Mathlib.Data.List.Basic

namespace Recital
namespace Path

variable {c : Char} {front behind folder base stem : List Char}

/-! ### The last separator -/

/-- Whether a text is empty or ends in a separator. -/
def EndsIn (c : Char) (front : List Char) : Prop := front = [] ∨ ∃ before, front = before ++ [c]

/-- What stands behind the last separator. -/
def behindLast (c : Char) (cs : List Char) : List Char :=
  (cs.reverse.takeWhile (· != c)).reverse

/-- Every text is split at its last separator. -/
theorem exists_split (c : Char) (cs : List Char) :
    ∃ front behind, cs = front ++ behind ∧ EndsIn c front ∧ c ∉ behind := by
  induction cs with
  | nil => exact ⟨[], [], rfl, .inl rfl, List.not_mem_nil⟩
  | cons x cs ih =>
    obtain ⟨front, behind, rfl, rfl | ⟨before, rfl⟩, free⟩ := ih
    · by_cases here : x = c
      · exact ⟨[x], behind, rfl, .inr ⟨[], by rw [here]; rfl⟩, free⟩
      · exact ⟨[], x :: behind, rfl, .inl rfl,
          List.not_mem_cons_of_ne_of_not_mem (Ne.symm here) free⟩
    · exact ⟨x :: (before ++ [c]), behind, rfl, .inr ⟨x :: before, rfl⟩, free⟩

/-- **What stands behind the last separator** is found. -/
theorem behindLast_append (ends : EndsIn c front) (free : c ∉ behind) :
    behindLast c (front ++ behind) = behind := by
  have all : ∀ x ∈ behind.reverse, (x != c) = true := by
    intro x mem
    rw [bne_iff_ne]
    rintro rfl
    exact free (List.mem_reverse.1 mem)
  rw [behindLast, List.reverse_append, List.takeWhile_append_of_pos all]
  obtain rfl | ⟨before, rfl⟩ := ends
  · rw [List.reverse_nil, List.takeWhile_nil, List.append_nil, List.reverse_reverse]
  · rw [List.reverse_concat, List.takeWhile_cons_of_neg (by simp), List.append_nil,
      List.reverse_reverse]

/-! ### Folders and components -/

/-- **A path is split behind its last slash.** -/
theorem splitLast_append (ends : EndsIn '/' folder) (free : '/' ∉ base) :
    splitLast (folder ++ base) = (folder, base) := by
  have found : behindLast '/' (folder ++ base) = base := behindLast_append ends free
  have kept : (folder ++ base).take ((folder ++ base).length - base.length) = folder := by
    rw [List.length_append, Nat.add_sub_cancel]
    exact List.take_left' rfl
  unfold splitLast
  rw [← behindLast, found]
  exact congrArg (·, base) kept

theorem splitBase_dotted (free : '.' ∉ behind) :
    splitBase (stem ++ '.' :: behind) =
      if stem.any (· != '.') then (stem, '.' :: behind) else (stem ++ '.' :: behind, []) := by
  have split : stem ++ '.' :: behind = stem ++ ['.'] ++ behind := by simp
  have found : behindLast '.' (stem ++ '.' :: behind) = behind :=
    split ▸ behindLast_append (.inr ⟨stem, rfl⟩) free
  have dotted : (stem ++ '.' :: behind).contains '.' = true := by simp
  have kept : (stem ++ '.' :: behind).take
      ((stem ++ '.' :: behind).length - behind.length - 1) = stem := by
    refine List.take_left' ?_
    rw [List.length_append, List.length_cons]
    omega
  unfold splitBase
  rw [← behindLast, found]
  dsimp only
  rw [kept, dotted, Bool.true_and]

theorem splitBase_undotted (free : '.' ∉ base) : splitBase base = (base, []) := by
  have undotted : base.contains '.' = false := by simpa using free
  unfold splitBase
  rw [undotted]
  rfl

/-- **A component is split at its last dot,** if more than dots stand in front of it. -/
theorem splitBase_append (named : ∃ d ∈ stem, d ≠ '.') (free : '.' ∉ behind) :
    splitBase (stem ++ '.' :: behind) = (stem, '.' :: behind) := by
  rw [splitBase_dotted free, if_pos (by simpa using named)]

/-- Any other component has no extension. -/
theorem splitBase_cases (base : List Char) :
    (∃ stem behind, base = stem ++ '.' :: behind ∧ (∃ d ∈ stem, d ≠ '.') ∧
      splitBase base = (stem, '.' :: behind)) ∨ splitBase base = (base, []) := by
  obtain ⟨front, behind, rfl, rfl | ⟨stem, rfl⟩, free⟩ := exists_split '.' base
  · exact .inr (splitBase_undotted free)
  · rw [List.append_assoc, List.singleton_append]
    by_cases named : ∃ d ∈ stem, d ≠ '.'
    · exact .inl ⟨stem, behind, rfl, named, splitBase_append named free⟩
    · exact .inr (by rw [splitBase_dotted free, if_neg (by simpa using named)])

theorem splitOn_of_notMem (free : '/' ∉ base) : base.splitOn '/' = [base] :=
  List.splitOnP_eq_singleton fun _ mem => beq_eq_false_iff_ne.2 fun same => free (same ▸ mem)

/-- **The components of a path** are those of its folder and the last one. -/
theorem components_append (ends : EndsIn '/' folder) :
    ∃ names, (names = [] → folder = []) ∧ ∀ base, '/' ∉ base →
      components (String.ofList (folder ++ base)) = names ++ [String.ofList base] := by
  obtain rfl | ⟨before, rfl⟩ := ends
  · refine ⟨[], fun _ => rfl, fun base free => ?_⟩
    rw [components, String.toList_ofList, List.nil_append, splitOn_of_notMem free]
    rfl
  · refine ⟨(before.splitOn '/').map String.ofList, fun none => ?_, fun base free => ?_⟩
    · exact absurd (List.map_eq_nil_iff.1 none) (List.splitOnP_ne_nil _ before)
    · have split : (before ++ '/' :: base).splitOn '/' = before.splitOn '/' ++ base.splitOn '/' :=
        List.splitOnP_append_cons _ _ (beq_self_eq_true '/')
      rw [components, String.toList_ofList, List.append_assoc, List.singleton_append, split,
        splitOn_of_notMem free, List.map_append]
      rfl

end Path
end Recital
