/-
# Writing beside a file

A file that is written is found under its path, and whatever file was found at another place
still is, with its bytes.  The reason is that a path is looked up through folders only.  What is
written is no folder, so the way of every other path is the one it was (`follow_put`).

Two paths of one folder lead to two places if their last components differ and one of these is
a name, not empty, `.` or `..` (`apart_of_names`).
-/

import Recital.Disk.Basic
import Recital.Proofs.Disk.Path

namespace Recital
namespace Disk

variable {d d' : Disk} {place start found : List String} {names : List String}
  {bytes content : List UInt8} {path other name : String}

/-! ### Files and folders at their places -/

/-- A disk with a file put at a place. -/
def put (d : Disk) (place : List String) (bytes : List UInt8) : Disk :=
  { d with files := putFile place bytes d.files }

theorem lookup_putFile_self (place : List String) (bytes : List UInt8)
    (files : List (List String × List UInt8)) :
    (putFile place bytes files).lookup place = some bytes := by
  induction files with
  | nil => simp [putFile]
  | cons f files ih =>
    rw [putFile]
    split_ifs with same
    · simp
    · rw [List.lookup_cons, beq_eq_false_iff_ne.2 (Ne.symm same)]
      exact ih

theorem lookup_putFile_of_ne (ne : found ≠ place) (bytes : List UInt8)
    (files : List (List String × List UInt8)) :
    (putFile place bytes files).lookup found = files.lookup found := by
  induction files with
  | nil => simp [putFile, List.lookup_cons, beq_eq_false_iff_ne.2 ne]
  | cons f files ih =>
    rw [putFile]
    split_ifs with same
    · rw [List.lookup_cons, List.lookup_cons, same, beq_eq_false_iff_ne.2 ne]
    · rw [List.lookup_cons, List.lookup_cons, ih]

/-- The places of files stay. -/
theorem any_putFile {holds : List String → Bool} {files : List (List String × List UInt8)}
    (h : files.any (fun f => holds f.1) = true) (place : List String) (bytes : List UInt8) :
    (putFile place bytes files).any (fun f => holds f.1) = true := by
  induction files with
  | nil => cases h
  | cons f files ih =>
    rw [putFile]
    split_ifs with same
    · rw [List.any_cons] at h ⊢
      rwa [same] at h
    · rw [List.any_cons, Bool.or_eq_true] at h ⊢
      exact h.imp_right ih

theorem node_eq_file_iff : d.node found = .file content ↔ d.files.lookup found = some content := by
  rw [node]
  cases d.files.lookup found with
  | some other => simp
  | none =>
    dsimp only
    split_ifs <;> simp

theorem node_eq_folder_iff :
    d.node found = .folder ↔ d.files.lookup found = none ∧
      ((found.isEmpty || found == outside || d.folders.any fun p => found.isPrefixOf p) ||
        d.files.any fun f => found.isPrefixOf f.1) = true := by
  rw [node]
  cases d.files.lookup found with
  | some other => simp
  | none =>
    dsimp only
    split_ifs with there
    · simpa using there
    · simpa using there

theorem node_put_self (d : Disk) (place : List String) (bytes : List UInt8) :
    (d.put place bytes).node place = .file bytes :=
  node_eq_file_iff.2 (lookup_putFile_self ..)

/-- At another place a file is still there, -/
theorem node_put_file (ne : found ≠ place) (there : d.node found = .file content) :
    (d.put place bytes).node found = .file content := by
  rw [node_eq_file_iff] at there ⊢
  exact (lookup_putFile_of_ne ne ..).trans there

/-- and a folder is a folder. -/
theorem node_put_folder (ne : found ≠ place) (there : d.node found = .folder) :
    (d.put place bytes).node found = .folder := by
  rw [node_eq_folder_iff] at there ⊢
  obtain ⟨noFile, inside⟩ := there
  refine ⟨(lookup_putFile_of_ne ne ..).trans noFile, ?_⟩
  rw [Bool.or_eq_true] at inside ⊢
  exact inside.imp_right fun inside => any_putFile inside place bytes

/-! ### Looking up -/

/-- What is found is what is at the place. -/
theorem node_of_follow {n : Node} (h : d.follow start names = .ok (found, n)) :
    n = d.node found := by
  induction names generalizing start with
  | nil =>
    cases h
    rfl
  | cons name names ih =>
    rw [follow] at h
    split at h
    · cases h
    · cases h
    · split_ifs at h <;> exact ih h

/-- **The ways through folders stay** when something is put where there is no folder. -/
theorem follow_put (noFolder : d.node place ≠ .folder) {n : Node}
    (h : d.follow start names = .ok (found, n)) :
    (d.put place bytes).follow start names = .ok (found, (d.put place bytes).node found) := by
  induction names generalizing start with
  | nil =>
    cases h
    rfl
  | cons name names ih =>
    rw [follow] at h ⊢
    split at h
    · cases h
    · cases h
    · rename_i folder
      have ne : start ≠ place := fun same => noFolder (same ▸ folder)
      rw [node_put_folder ne folder]
      dsimp only
      split_ifs at h ⊢ <;> exact ih h

/-- Where the components of a path start, and which are followed from there. -/
def origin (names : List String) : List String × List String :=
  if names.head? = some "" then (outside, names.tail) else ([], names)

theorem lookUp_eq_ok_iff {r : List String × Node} :
    d.lookUp path = .ok r ↔ path ≠ "" ∧ path.utf8ByteSize ≤ pathLimit ∧
      d.follow (origin (Path.components path)).1 (origin (Path.components path)).2 = .ok r := by
  rw [lookUp]
  split_ifs with empty long
  · simp [String.isEmpty_iff.1 empty]
  · simp [Nat.not_le.2 long]
  · rw [and_iff_right (mt String.isEmpty_iff.2 empty), and_iff_right (Nat.not_lt.1 long)]
    split
    · next top => rw [top, origin, List.head?_cons, if_pos rfl, List.tail_cons]
    · next below =>
      have relative : (Path.components path).head? ≠ some "" :=
        fun top => below _ (List.eq_cons_of_mem_head? top)
      rw [origin, if_neg relative]

theorem node_of_lookUp {n : Node} (h : d.lookUp path = .ok (found, n)) : n = d.node found :=
  node_of_follow (lookUp_eq_ok_iff.1 h).2.2

theorem lookUp_put (noFolder : d.node place ≠ .folder) (bytes : List UInt8) {n : Node}
    (h : d.lookUp path = .ok (found, n)) :
    (d.put place bytes).lookUp path = .ok (found, (d.put place bytes).node found) := by
  rw [lookUp_eq_ok_iff] at h ⊢
  exact ⟨h.1, h.2.1, follow_put noFolder h.2.2⟩

theorem read_eq_ok_iff :
    d.read path = .ok content ↔ Char.ofNat 0 ∉ path.toList ∧
      ∃ place, d.lookUp path = .ok (place, .file content) := by
  rw [read]
  split_ifs with null
  · simp [List.contains_iff_mem.1 null]
  · rw [and_iff_right (mt List.contains_iff_mem.2 null)]
    split
    · simp [*]
    · simp [*]
    · simp [*]
    · simp [*]

theorem write_eq_ok_iff :
    d.write path bytes = .ok d' ↔ Char.ofNat 0 ∉ path.toList ∧
      ∃ place n, d.lookUp path = .ok (place, n) ∧ n ≠ .folder ∧ d' = d.put place bytes := by
  rw [write]
  split_ifs with null
  · simp [List.contains_iff_mem.1 null]
  · rw [and_iff_right (mt List.contains_iff_mem.2 null)]
    split
    · simp [*]
    · simp [*]
    · rename_i place n noFolder found
      constructor
      · rintro ⟨⟩
        exact ⟨place, n, found, noFolder, rfl⟩
      · rintro ⟨place', n', same, -, rfl⟩
        cases found.symm.trans same
        rfl

/-- **A file that is written is found** under its path. -/
theorem read_write (written : d.write path bytes = .ok d') : d'.read path = .ok bytes := by
  obtain ⟨noNull, place, n, found, noFolder, rfl⟩ := write_eq_ok_iff.1 written
  have there := lookUp_put (node_of_lookUp found ▸ noFolder) bytes found
  rw [node_put_self] at there
  exact read_eq_ok_iff.2 ⟨noNull, place, there⟩

/-- Whether two paths lead to two places, if they lead anywhere. -/
def Apart (d : Disk) (path other : String) : Prop :=
  ∀ place place' n n', d.lookUp path = .ok (place, n) → d.lookUp other = .ok (place', n') →
    place ≠ place'

/-- **Any other file is kept,** wherever its own path leads. -/
theorem read_write_of_apart (there : d.read path = .ok content)
    (written : d.write other bytes = .ok d') (apart : d.Apart path other) :
    d'.read path = .ok content := by
  obtain ⟨noNull, place, found⟩ := read_eq_ok_iff.1 there
  obtain ⟨-, place', n, found', noFolder, rfl⟩ := write_eq_ok_iff.1 written
  have kept := lookUp_put (node_of_lookUp found' ▸ noFolder) bytes found
  rw [node_put_file (apart _ _ _ _ found found') (node_of_lookUp found).symm] at kept
  exact read_eq_ok_iff.2 ⟨noNull, place, kept⟩

/-! ### Two paths of one folder -/

/-- Whether a component is the name of something in a folder. -/
def IsName (name : String) : Prop := name ≠ "" ∧ name ≠ "." ∧ name ≠ ".."

/-- The place that one component leads to from a folder. -/
def stepFrom (folder : List String) (name : String) : List String :=
  if name = "" ∨ name = "." then folder
  else if name = ".." then parent folder
  else folder ++ [name]

theorem stepFrom_name (isName : IsName name) (folder : List String) :
    stepFrom folder name = folder ++ [name] := by
  rw [stepFrom, if_neg (not_or.2 ⟨isName.1, isName.2.1⟩), if_neg isName.2.2]

/-- A name leads to a place of its own. -/
theorem stepFrom_ne {other : String} (isName : IsName name) (ne : other ≠ name)
    (folder : List String) : stepFrom folder other ≠ stepFrom folder name := by
  rw [stepFrom_name isName, stepFrom]
  split_ifs with here back
  · exact fun same => by simpa using congrArg List.length same
  · rw [parent]
    split_ifs with top
    · rw [Bool.or_eq_true, List.isEmpty_iff, beq_iff_eq] at top
      rcases top with rfl | rfl
      · rw [List.nil_append, outside]
        exact fun same => isName.2.2 (List.singleton_inj.1 same).symm
      · exact fun same => by simpa [outside] using congrArg List.length same
    · intro same
      have := congrArg List.length same
      rw [List.length_dropLast, List.length_append] at this
      simp at this
  · exact fun same => ne (List.singleton_inj.1 (List.append_cancel_left same))

/-- The last component is followed from the folder that the others lead to. -/
theorem follow_concat {n : Node} (h : d.follow start (names ++ [name]) = .ok (found, n)) :
    ∃ folder n', d.follow start names = .ok (folder, n') ∧ found = stepFrom folder name := by
  induction names generalizing start with
  | nil =>
    rw [List.nil_append, follow] at h
    refine ⟨start, d.node start, rfl, ?_⟩
    rw [stepFrom]
    split at h
    · cases h
    · cases h
    · split_ifs at h ⊢ <;> cases h <;> rfl
  | cons first names ih =>
    rw [List.cons_append, follow] at h
    rw [follow]
    split at h
    · cases h
    · cases h
    · split_ifs at h ⊢ <;> exact ih h

theorem origin_concat (h : names ≠ [] ∨ name ≠ "") :
    origin (names ++ [name]) = ((origin names).1, (origin names).2 ++ [name]) := by
  cases names with
  | nil =>
    have named : some name ≠ some "" :=
      fun same => h.elim (absurd rfl) (absurd (Option.some.inj same))
    rw [List.nil_append, origin, List.head?_cons, if_neg named]
    rfl
  | cons first names =>
    rw [List.cons_append, origin, origin, List.head?_cons, List.head?_cons]
    split_ifs <;> rfl

/-- **Two paths of one folder** lead to two places, if one of them ends in a name. -/
theorem apart_of_names {folder base base' : List Char} (ends : Path.EndsIn '/' folder)
    (free : '/' ∉ base) (free' : '/' ∉ base') (isName : IsName (String.ofList base'))
    (ne : base ≠ base') :
    d.Apart (String.ofList (folder ++ base)) (String.ofList (folder ++ base')) := by
  intro found found' n n' h h'
  obtain ⟨names, bare, components⟩ := Path.components_append ends
  obtain ⟨full, -, followed⟩ := lookUp_eq_ok_iff.1 h
  obtain ⟨-, -, followed'⟩ := lookUp_eq_ok_iff.1 h'
  have some : names ≠ [] ∨ String.ofList base ≠ "" := by
    by_contra none
    rw [not_or, not_not, not_not] at none
    exact full (by rw [bare none.1, List.nil_append, none.2])
  rw [components base free, origin_concat some] at followed
  rw [components base' free', origin_concat (.inr isName.1)] at followed'
  obtain ⟨place, m, way, rfl⟩ := follow_concat followed
  obtain ⟨place', m', way', rfl⟩ := follow_concat followed'
  cases way.symm.trans way'
  exact stepFrom_ne isName (fun same => ne (String.ofList_injective same)) place

end Disk
end Recital
