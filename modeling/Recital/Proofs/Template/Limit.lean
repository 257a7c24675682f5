/-
# Where an expansion is given up

An expansion may make `substitutionLimit` substitutions.  Before each of them it looks whether a
symbol is left, but not after the last one: then it is given up, whatever the text has become.
With `n` for the number of substitutions after which no symbol is left:

| | the expansion |
| --- | --- |
| `n < substitutionLimit` | gives the text |
| `n = substitutionLimit` | is given up, though the text has no symbol left |
| `n > substitutionLimit`, or there is no such `n` | is given up |

Here the source of choices is followed along with the text; the room stays that of the start.  A
substitution that is made uses up one of those that are allowed (`Substituted.run_expandWithin`);
everything else is read off what the expansion does with one left, and with none.
-/

import Recital.Proofs.Template.Derivation

namespace Recital
namespace Template

variable {t : Template} {u v s : Words} {c c' : Chooser} {room n steps : Nat}
  {start mid after : Words × Chooser}

/-! ### Substitutions from a source -/

/-- One substitution, whose rendering has room for `room` arrays: a text and the source of the
choices to come, before and after. -/
inductive Substitution (t : Template) (room : Nat) : Words × Chooser → Words × Chooser → Prop where
  | replace {front key back rendering : Words} {value : Value} {c c' : Chooser}
      (due : t.Due front key back value)
      (rendered : (renderPick room value).run c = (.ok rendering, c')) :
      Substitution t room (front ++ Text.upper key ++ back, c) (front ++ rendering ++ back, c')

/-- Whether a number of substitutions lead from a start to a text. -/
inductive Substituted (t : Template) (start : Words × Chooser) : Nat → Words × Chooser → Prop where
  | zero : Substituted t start 0 start
  | succ {n : Nat} {mid after : Words × Chooser} (before : Substituted t start n mid)
      (step : Substitution t start.2.room.arrays mid after) : Substituted t start (n + 1) after

/-- Whether no rendering fails in the first `n` substitutions from a start. -/
def Renders (t : Template) (start : Words × Chooser) (n : Nat) : Prop :=
  ∀ k < n, ∀ front key back value c,
    t.Substituted start k (front ++ Text.upper key ++ back, c) → t.Due front key back value →
      ∃ rendering c', (renderPick start.2.room.arrays value).run c = (.ok rendering, c')

/-- Whether at least `n` substitutions are needed: with fewer of them a symbol is left. -/
def Needs (t : Template) (start : Words × Chooser) (n : Nat) : Prop :=
  ∀ k < n, ∀ s c, t.Substituted start k (s, c) → ¬ t.Settled s

/-! ### What a substitution uses up -/

/-- Where a symbol is left, one is due. -/
theorem exists_due (left : ¬ t.Settled u) :
    ∃ front key back value, t.Due front key back value ∧ u = front ++ Text.upper key ++ back := by
  cases found : firstMatch? t.symbols u with
  | none => exact absurd (firstMatch?_eq_none_iff.1 found) left
  | some place =>
    obtain ⟨i, length, value⟩ := place
    obtain ⟨front, key, back, due, split, -, -⟩ := firstMatch?_eq_some_iff_due.1 found
    exact ⟨front, key, back, value, due, split⟩

theorem Substitution.run_expandWithin (step : t.Substitution room (u, c) (v, c')) (steps : Nat) :
    (expandWithin room t.symbols (steps + 1) u).run c =
      (expandWithin room t.symbols steps v).run c' := by
  cases step with
  | replace due rendered =>
    have found := firstMatch?_eq_some_iff_due.2 ⟨_, _, _, due, rfl, rfl, rfl⟩
    rw [expandWithin, found]
    dsimp only
    rw [ExceptT.run_bind_of_ok rendered, replace_middle]

/-- **Substitutions that are made are used up.** -/
theorem Substituted.run_expandWithin (made : t.Substituted start n after) (steps : Nat) :
    (expandWithin start.2.room.arrays t.symbols (n + steps) start.1).run start.2 =
      (expandWithin start.2.room.arrays t.symbols steps after.1).run after.2 := by
  induction made generalizing steps with
  | zero => rw [Nat.zero_add]
  | @succ n mid after _ step ih =>
    rw [Nat.add_assoc, Nat.add_comm 1 steps, ih (steps + 1)]
    exact step.run_expandWithin steps

/-- A text without symbols is given as soon as one substitution would still be allowed. -/
theorem Substituted.run_of_settled (made : t.Substituted start n (s, c)) (settled : t.Settled s)
    (less : n < steps) :
    (expandWithin start.2.room.arrays t.symbols steps start.1).run start.2 = (.ok s, c) := by
  obtain ⟨more, rfl⟩ := Nat.exists_eq_add_of_lt less
  rw [Nat.add_assoc, made.run_expandWithin, expandWithin, firstMatch?_eq_none_iff.2 settled]
  rfl

/-- After as many substitutions as are allowed nothing is looked at any more. -/
theorem Substituted.run_of_limit (made : t.Substituted start n after) :
    (expandWithin start.2.room.arrays t.symbols n start.1).run start.2 =
      (.error .endless, after.2) := by
  have used := made.run_expandWithin 0
  rw [Nat.add_zero] at used
  rw [used]
  rfl

/-- As many substitutions can be made as are needed. -/
theorem Needs.exists_substituted (needs : t.Needs start n) (renders : t.Renders start n) :
    ∃ after, t.Substituted start n after := by
  induction n with
  | zero => exact ⟨start, .zero⟩
  | succ n ih =>
    obtain ⟨⟨u, c⟩, made⟩ := ih (fun k less => needs k (Nat.lt_succ_of_lt less))
      fun k less => renders k (Nat.lt_succ_of_lt less)
    have left : ¬ t.Settled u := needs n (Nat.lt_succ_self n) u c made
    obtain ⟨front, key, back, value, due, rfl⟩ := exists_due left
    obtain ⟨rendering, c', rendered⟩ :=
      renders n (Nat.lt_succ_self n) front key back value c made due
    exact ⟨_, .succ made (.replace due rendered)⟩

/-- An expansion is given up exactly where all substitutions that are allowed are needed. -/
theorem gives_up_iff_needs (renders : t.Renders start n) :
    (∃ c, (expandWithin start.2.room.arrays t.symbols n start.1).run start.2 =
      (.error .endless, c)) ↔ t.Needs start n := by
  constructor
  · rintro ⟨c, endless⟩ k less s c' made settled
    rw [made.run_of_settled settled less] at endless
    cases endless
  · intro needs
    obtain ⟨after, made⟩ := needs.exists_substituted renders
    exact ⟨after.2, made.run_of_limit⟩

theorem Needs.succ_iff :
    t.Needs start (n + 1) ↔
      t.Needs start n ∧ ∀ s c, t.Substituted start n (s, c) → ¬ t.Settled s := by
  constructor
  · intro needs
    exact ⟨fun k less => needs k (Nat.lt_succ_of_lt less), needs n (Nat.lt_succ_self n)⟩
  · rintro ⟨fewer, last⟩ k less
    rcases Nat.lt_succ_iff_lt_or_eq.1 less with less | rfl
    · exact fewer k less
    · exact last

/-! ### The limit -/

/-- **An expansion is given up where its last substitution is needed.**  Take a template that is
accepted, any start and any source, such that no rendering fails on the way.  The expansion is
given up if and only if all substitutions that are allowed are needed; so it is given up exactly
where more would be needed unless the last one leaves no symbol, and a text in which no symbol
is left after so many substitutions is given if and only if one more would have been allowed. -/
theorem expandDocument_gives_up_iff {document : String} (start : Words) (c : Chooser)
    (loaded : load c.room.containers document = .ok t)
    (renders : t.Renders (start, c) substitutionLimit) :
    ((∃ c', (expandDocument document start).run c = (.error .endless, c')) ↔
      t.Needs (start, c) substitutionLimit) ∧
    (((∃ c', (expandDocument document start).run c = (.error .endless, c')) ↔
        t.Needs (start, c) (substitutionLimit + 1)) ↔
      ∀ s c', t.Substituted (start, c) substitutionLimit (s, c') → ¬ t.Settled s) ∧
    ∀ n ≤ substitutionLimit, ∀ s c', t.Substituted (start, c) n (s, c') → t.Settled s →
      ((expandDocument document start).run c = (.ok s, c') ↔ n < substitutionLimit) := by
  have given_up := gives_up_iff_needs renders
  rw [run_expandDocument loaded]
  refine ⟨given_up, ?_, ?_⟩
  · rw [given_up, Needs.succ_iff]
    constructor
    · intro same s c' made
      have needs : t.Needs (start, c) substitutionLimit :=
        given_up.1 ⟨c', made.run_of_limit⟩
      exact (same.1 needs).2 s c' made
    · intro last
      exact ⟨fun needs => ⟨needs, last⟩, And.left⟩
  · intro n le s c' made settled
    constructor
    · intro given
      refine Nat.lt_of_le_of_ne le ?_
      rintro rfl
      rw [made.run_of_limit] at given
      cases given
    · exact made.run_of_settled settled

/-- Where all values are texts no rendering fails. -/
theorem renders_of_texts (texts : ∀ m ∈ t.members, ∃ w, m.2 = .text w) (start : Words × Chooser)
    (n : Nat) : t.Renders start n := by
  rintro k - front key back value c - ⟨⟨earlier, later, members, -⟩, -⟩
  obtain ⟨w, rfl : value = .text w⟩ := texts (key, value) (by rw [members]; simp)
  exact ⟨w, c, rfl⟩

/-- A document whose one symbol stands for nothing. -/
def vanishingDocument : String := "\x7b\"A\": \"\"\x7d"

/-- The room that the document takes. -/
def vanishingRoom : Room := { containers := 1 }

/-- The template of the document. -/
def vanishing : Template := ⟨[("A", .text [])]⟩

theorem vanishing_renders (start : Words × Chooser) (n : Nat) : vanishing.Renders start n :=
  renders_of_texts (by simp [vanishing]) start n

/-- So many letters take so many substitutions. -/
theorem vanishing_substituted (c : Chooser) (n more : Nat) :
    vanishing.Substituted (List.replicate (n + more) (.ofChar 'A'), c) n
      (List.replicate more (.ofChar 'A'), c) := by
  induction n generalizing more with
  | zero =>
    rw [Nat.zero_add]
    exact .zero
  | succ n ih =>
    have due : vanishing.Due [] "A" (List.replicate more (.ofChar 'A')) (.text []) :=
      ⟨⟨[], [], rfl, by simp⟩, fun _ _ _ => Nat.zero_le _⟩
    have step : vanishing.Substitution c.room.arrays
        (List.replicate (more + 1) (.ofChar 'A'), c) (List.replicate more (.ofChar 'A'), c) :=
      .replace due rfl
    rw [Nat.add_assoc, Nat.add_comm 1 more]
    exact .succ (ih (more + 1)) step

theorem vanishing_settled : vanishing.Settled [] := firstMatch?_eq_none_iff.1 rfl

/-- Two letters take two substitutions, and nothing is left of them. -/
theorem expandDocument_two_letters :
    let start : Words × Chooser := ("AA", .scripted [] 0 vanishingRoom)
    load vanishingRoom.containers vanishingDocument = .ok vanishing ∧
      vanishing.Renders start substitutionLimit ∧
      vanishing.Substituted start 2 ([], .scripted [] 0 vanishingRoom) ∧
      (expandDocument vanishingDocument start.1).run start.2 =
        (.ok [], .scripted [] 0 vanishingRoom) := by
  intro start
  have loaded : load vanishingRoom.containers vanishingDocument = .ok vanishing := rfl
  have renders := vanishing_renders start substitutionLimit
  have made : vanishing.Substituted start 2 ([], .scripted [] 0 vanishingRoom) :=
    vanishing_substituted _ 2 0
  obtain ⟨-, -, given⟩ := expandDocument_gives_up_iff start.1 start.2 loaded renders
  exact ⟨loaded, renders, made,
    (given 2 (by decide) [] _ made vanishing_settled).2 (by decide)⟩

/-- **The last substitution is not looked at.**  As many letters as substitutions are allowed
take all of them, and no more; but the expansion is given up. -/
theorem expandDocument_gives_up_on_settled :
    let start : Words × Chooser :=
      (List.replicate substitutionLimit (.ofChar 'A'), .scripted [] 0 vanishingRoom)
    load vanishingRoom.containers vanishingDocument = .ok vanishing ∧
      vanishing.Renders start substitutionLimit ∧
      vanishing.Substituted start substitutionLimit ([], .scripted [] 0 vanishingRoom) ∧
      vanishing.Settled [] ∧
      ¬ vanishing.Needs start (substitutionLimit + 1) ∧
      (expandDocument vanishingDocument start.1).run start.2 =
        (.error .endless, .scripted [] 0 vanishingRoom) := by
  intro start
  have loaded : load vanishingRoom.containers vanishingDocument = .ok vanishing := rfl
  have made : vanishing.Substituted start substitutionLimit ([], .scripted [] 0 vanishingRoom) :=
    vanishing_substituted _ substitutionLimit 0
  refine ⟨loaded, vanishing_renders start _, made, vanishing_settled, ?_, ?_⟩
  · intro needs
    exact (Needs.succ_iff.1 needs).2 [] _ made vanishing_settled
  · exact (run_expandDocument loaded (.scripted [] 0) start.1).trans made.run_of_limit

end Template
end Recital
