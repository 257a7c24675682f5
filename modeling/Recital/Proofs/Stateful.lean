/-
# Computations that may fail and keep a state

Such a computation is run from a state and gives a result and the state it leaves.  A
sequence of two goes on from what the first leaves, and stops there if the first fails.
-/

namespace ExceptT

variable {ε σ α β : Type} {x : ExceptT ε (StateM σ) α} {f : α → ExceptT ε (StateM σ) β}
  {s s' : σ}

theorem run_bind_of_ok {a : α} (h : x.run s = (.ok a, s')) :
    (x >>= f).run s = (f a).run s' := by
  change (fun p : Except ε α × σ => (match p.1 with
    | .ok a => (f a).run
    | .error e => pure (.error e) : StateM σ (Except ε β)) p.2) (x.run s) = _
  rw [h]

theorem run_bind_of_error {e : ε} (h : x.run s = (.error e, s')) :
    (x >>= f).run s = (.error e, s') := by
  change (fun p : Except ε α × σ => (match p.1 with
    | .ok a => (f a).run
    | .error e => pure (.error e) : StateM σ (Except ε β)) p.2) (x.run s) = _
  rw [h]
  rfl

/-- A sequence that succeeds has a first result, and goes on from what the first leaves. -/
theorem exists_of_run_bind_eq_ok {b : β} (h : (x >>= f).run s = (.ok b, s')) :
    ∃ a s₁, x.run s = (.ok a, s₁) ∧ (f a).run s₁ = (.ok b, s') := by
  cases first : x.run s with
  | mk result s₁ =>
    cases result with
    | error e =>
      rw [run_bind_of_error first] at h
      cases h
    | ok a =>
      rw [run_bind_of_ok first] at h
      exact ⟨a, s₁, rfl, h⟩

/-- A sequence that fails does so in its first part, or from what the first part leaves. -/
theorem run_bind_eq_error {e : ε} (h : (x >>= f).run s = (.error e, s')) :
    x.run s = (.error e, s') ∨
      ∃ a s₁, x.run s = (.ok a, s₁) ∧ (f a).run s₁ = (.error e, s') := by
  cases first : x.run s with
  | mk result s₁ =>
    cases result with
    | error e' =>
      rw [run_bind_of_error first] at h
      cases h
      exact .inl rfl
    | ok a =>
      rw [run_bind_of_ok first] at h
      exact .inr ⟨a, s₁, rfl, h⟩

end ExceptT
