/-
# Computations that succeed

What a computation that may fail consists of when it does not: a sequence has a first
result and goes on from it, and a computation for each element of a list has one result
for each.
-/

import Mathlib.Data.List.Forall2

/-- In lists that go together each element on the right has one on the left. -/
theorem List.Forall₂.exists_of_mem_right {α β : Type} {R : α → β → Prop} {xs : List α}
    {ys : List β} (h : List.Forall₂ R xs ys) {y : β} (mem : y ∈ ys) : ∃ x ∈ xs, R x y := by
  induction h with
  | nil => cases mem
  | cons here _ ih =>
    rcases List.mem_cons.1 mem with rfl | mem
    · exact ⟨_, List.mem_cons_self, here⟩
    · obtain ⟨x, later, related⟩ := ih mem
      exact ⟨x, List.mem_cons_of_mem _ later, related⟩

namespace Except

variable {ε ε' α β : Type}

theorem bind_eq_ok {x : Except ε α} {f : α → Except ε β} {b : β} :
    (x >>= f) = .ok b ↔ ∃ a, x = .ok a ∧ f a = .ok b := by
  constructor
  · intro h
    cases x with
    | error e => cases h
    | ok a => exact ⟨a, rfl, h⟩
  · rintro ⟨a, rfl, h⟩
    exact h

theorem map_eq_ok {x : Except ε α} {f : α → β} {b : β} :
    x.map f = .ok b ↔ ∃ a, x = .ok a ∧ f a = b := by
  cases x with
  | error e => simp [Except.map]
  | ok a => simp [Except.map]

theorem mapError_eq_ok {x : Except ε α} {f : ε → ε'} {a : α} :
    x.mapError f = .ok a ↔ x = .ok a := by
  cases x with
  | error e => simp [Except.mapError]
  | ok b => simp [Except.mapError]

theorem toOption_eq_some {x : Except ε α} {a : α} : x.toOption = some a ↔ x = .ok a := by
  cases x with
  | error e => simp [Except.toOption]
  | ok b => simp [Except.toOption]

/-- A computation for each element of a list succeeds if it does for every one. -/
theorem mapM_eq_ok {f : α → Except ε β} {xs : List α} {ys : List β} :
    xs.mapM f = .ok ys ↔ List.Forall₂ (fun x y => f x = .ok y) xs ys := by
  induction xs generalizing ys with
  | nil =>
    rw [List.mapM_nil, List.forall₂_nil_left_iff]
    exact ⟨fun h => (Except.ok.inj h).symm, fun h => h ▸ rfl⟩
  | cons x xs ih =>
    simp only [List.mapM_cons, bind_eq_ok, ih, List.forall₂_cons_left_iff]
    constructor
    · rintro ⟨y, here, zs, rest, same⟩
      exact ⟨y, zs, here, rest, (Except.ok.inj same).symm⟩
    · rintro ⟨y, zs, here, rest, rfl⟩
      exact ⟨y, here, zs, rest, rfl⟩

/-- Where each element has a result by a rule, the results are those of the rule. -/
theorem mapM_eq_ok_map {f : α → Except ε β} {g : α → β} {xs : List α}
    (h : ∀ x ∈ xs, f x = .ok (g x)) : xs.mapM f = .ok (xs.map g) := by
  rw [mapM_eq_ok, List.forall₂_map_right_iff]
  exact List.forall₂_same.2 h

theorem exists_mapM_eq_ok {f : α → Except ε β} {xs : List α} (h : ∀ x ∈ xs, ∃ y, f x = .ok y) :
    ∃ ys, xs.mapM f = .ok ys := by
  induction xs with
  | nil => exact ⟨[], rfl⟩
  | cons x xs ih =>
    obtain ⟨y, here⟩ := h x List.mem_cons_self
    obtain ⟨ys, rest⟩ := ih fun z mem => h z (List.mem_cons_of_mem _ mem)
    exact ⟨y :: ys, mapM_eq_ok.2 (.cons here (mapM_eq_ok.1 rest))⟩

/-- Each of the results is that of some element. -/
theorem exists_of_mem_mapM {f : α → Except ε β} {xs : List α} {ys : List β}
    (h : xs.mapM f = .ok ys) {y : β} (mem : y ∈ ys) : ∃ x ∈ xs, f x = .ok y :=
  (mapM_eq_ok.1 h).exists_of_mem_right mem

theorem bind_eq_error {x : Except ε α} {f : α → Except ε β} {e : ε} :
    (x >>= f) = .error e ↔ x = .error e ∨ ∃ a, x = .ok a ∧ f a = .error e := by
  constructor
  · intro h
    cases x with
    | error e' => exact .inl (congrArg Except.error (Except.error.inj h))
    | ok a => exact .inr ⟨a, rfl, h⟩
  · rintro (rfl | ⟨a, rfl, h⟩)
    · rfl
    · exact h

/-- A run over a list fails where the first of its steps does. -/
theorem foldlM_eq_error {f : β → α → Except ε β} {b : β} {xs : List α} {e : ε} :
    xs.foldlM f b = .error e ↔
      ∃ front x back b', xs = front ++ x :: back ∧ front.foldlM f b = .ok b' ∧
        f b' x = .error e := by
  induction xs generalizing b with
  | nil =>
    refine iff_of_false (fun h => nomatch h) ?_
    rintro ⟨front, x, back, b', split, -⟩
    cases front <;> cases split
  | cons x xs ih =>
    rw [List.foldlM_cons, bind_eq_error]
    constructor
    · rintro (here | ⟨b', here, later⟩)
      · exact ⟨[], x, xs, b, rfl, rfl, here⟩
      · obtain ⟨front, y, back, b'', rfl, gone, failed⟩ := ih.1 later
        exact ⟨x :: front, y, back, b'', rfl, bind_eq_ok.2 ⟨b', here, gone⟩, failed⟩
    · rintro ⟨front, y, back, b'', split, gone, failed⟩
      cases front with
      | nil =>
        obtain ⟨rfl, rfl⟩ := List.cons.inj split
        cases gone
        exact .inl failed
      | cons x' front =>
        obtain ⟨rfl, rfl⟩ := List.cons.inj split
        obtain ⟨b', here, later⟩ := bind_eq_ok.1 gone
        exact .inr ⟨b', here, ih.2 ⟨front, y, back, b'', rfl, later, failed⟩⟩

end Except
