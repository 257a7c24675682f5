/-
# Expanding long texts

`expandWithin` looks for each symbol in all of the working text before each
substitution.  An expansion can take thousands of them while the text grows, so here the
text is edited in place, and for each symbol there is a window on the places where it
may stand.  A search shrinks the windows of the symbols that it looks for, and a
substitution widens each window by what came in and what touches it.  `expand_eq` says
that this changes nothing: an expansion is what `expandWithin` makes of the text.
-/

import Recital.Template
import Recital.Text.Cursor

namespace Recital
namespace Template

/-- The pattern of a symbol, its value, and a window on the places where the symbol may
stand. -/
structure Sought where
  pattern : Text.Pattern
  value : Value
  window : Text.Window

/-- What is known of the symbols after a substitution. -/
def Sought.afterReplacement (i gone brought : Nat) (s : Sought) : Sought :=
  { s with window := s.window.afterReplacement s.pattern.size i gone brought }

/-- The first symbol that occurs in a text, as `firstMatch?` gives it, and what is known of
the symbols then. -/
def search (working : Text.Cursor) : List Sought → Option (Nat × Nat × Value) × List Sought
  | [] => (none, [])
  | s :: more =>
    match working.indexWithin s.pattern s.window with
    | some i =>
      (some (i, s.pattern.size, s.value), { s with window := s.window.startingAt i } :: more)
    | none =>
      let (found, more) := search working more
      (found, { s with window := .nowhere } :: more)

/-- The expansion of a text by at most `steps` substitutions. -/
def expandSought (room : Nat) :
    (steps : Nat) → (working : Text.Cursor) → List Sought → Draw Words
  | 0, _, _ => throw .endless
  | steps + 1, working, sought =>
    match search working sought with
    | (none, _) => return working.toList
    | (some (i, length, v), sought) => do
      let rendering ← renderPick room v
      expandSought room steps (working.replace i length rendering)
        (sought.map (Sought.afterReplacement i length rendering.length))

/-- The symbols of a template, which may stand anywhere in a text. -/
def soughtIn (t : Template) (text : Words) : List Sought :=
  t.symbols.map fun (symbol, v) => ⟨.ofWords symbol, v, .whole text⟩

/-- The expansion of `start` by a template, where a rendering may go into `room` arrays. -/
def expand (room : Nat) (t : Template) (start : Words) : Draw Words :=
  expandSought room substitutionLimit (.ofList start) (t.soughtIn start)

/-- The expansion of `start` by the template of a document. -/
def expandDocument (document : String) (start : Words) : Draw Words := do
  let c ← get
  match load c.room.containers document with
  | .error fault => throw fault
  | .ok t => t.expand c.room.arrays start

/-- Whether every window has all places where its symbol stands. -/
def Aware (sought : List Sought) (text : Words) : Prop :=
  ∀ s ∈ sought, s.window.Covers s.pattern.token text

/-- The symbols that are sought and their values. -/
def pairs (sought : List Sought) : List (Words × Value) :=
  sought.map fun s => (s.pattern.token, s.value)

theorem search_spec (working : Text.Cursor) (sought : List Sought)
    (aware : Aware sought working.toList) :
    (search working sought).1 = firstMatch? (pairs sought) working.toList ∧
      pairs (search working sought).2 = pairs sought ∧
      Aware (search working sought).2 working.toList := by
  induction sought with
  | nil => exact ⟨rfl, rfl, aware⟩
  | cons s more ih =>
    have covers := aware s List.mem_cons_self
    have same := working.indexWithin_eq covers
    have rest : Aware more working.toList := fun x h => aware x (List.mem_cons_of_mem _ h)
    unfold search
    cases found : working.indexWithin s.pattern s.window with
    | some i =>
      rw [found] at same
      refine ⟨?_, rfl, ?_⟩
      · simp [firstMatch?, pairs, ← same, s.pattern.size_eq]
      · intro x h
        rcases List.mem_cons.1 h with rfl | h
        · exact Text.Window.covers_startingAt covers same.symm
        · exact rest x h
    | none =>
      rw [found] at same
      obtain ⟨first, symbols, known⟩ := ih rest
      refine ⟨?_, ?_, ?_⟩
      · simp [firstMatch?, pairs, ← same] at first ⊢
        exact first
      · simpa [pairs] using symbols
      · intro x h
        rcases List.mem_cons.1 h with rfl | h
        · exact Text.Window.covers_nowhere same.symm _
        · exact known x h

/-- What is found lies inside the text. -/
theorem le_of_firstMatch {symbols : List (Words × Value)} {text : Words}
    {i length : Nat} {v : Value} (h : firstMatch? symbols text = some (i, length, v)) :
    i + length ≤ text.length := by
  obtain ⟨⟨symbol, _⟩, _, found⟩ := List.exists_of_findSome?_eq_some h
  obtain ⟨k, place, same⟩ := Option.map_eq_some_iff.1 found
  simp only [Prod.mk.injEq] at same
  have stands := ((Text.indexOf?_eq_some_iff symbol text k).1 place).1.length_le
  have inside := Text.indexOf?_le place
  rw [List.length_drop] at stands
  omega

theorem pairs_afterReplacement (sought : List Sought) (i gone brought : Nat) :
    pairs (sought.map (Sought.afterReplacement i gone brought)) = pairs sought := by
  simp [pairs, Sought.afterReplacement]

theorem aware_afterReplacement {sought : List Sought} {text : Words} {i gone : Nat}
    (brought : Words) (aware : Aware sought text) (le : i + gone ≤ text.length) :
    Aware (sought.map (Sought.afterReplacement i gone brought.length))
      (text.take i ++ brought ++ text.drop (i + gone)) := by
  intro x h
  obtain ⟨s, mem, rfl⟩ := List.mem_map.1 h
  unfold Sought.afterReplacement
  rw [s.pattern.size_eq]
  exact Text.Window.covers_afterReplacement brought (aware s mem) le

/-- **Windows make no difference to an expansion.** -/
theorem expandSought_eq (room steps : Nat) (working : Text.Cursor) (sought : List Sought)
    (aware : Aware sought working.toList) :
    expandSought room steps working sought =
      expandWithin room (pairs sought) steps working.toList := by
  induction steps generalizing working sought with
  | zero => rfl
  | succ steps ih =>
    obtain ⟨first, symbols, known⟩ := search_spec working sought aware
    unfold expandSought expandWithin
    rw [← first]
    revert first symbols known
    rcases search working sought with ⟨found, now⟩
    intro first symbols known
    cases found with
    | none => rfl
    | some found =>
      obtain ⟨i, length, v⟩ := found
      refine congrArg (renderPick room v >>= ·) (funext fun rendering => ?_)
      have inside := le_of_firstMatch first.symm
      have next := aware_afterReplacement rendering known inside
      rw [← working.toList_replace] at next
      rw [ih _ _ next, pairs_afterReplacement, symbols, working.toList_replace]

/-- **An expansion substitutes the first symbol that occurs, again and again.** -/
theorem expand_eq (t : Template) (room : Nat) (start : Words) :
    t.expand room start = expandWithin room t.symbols substitutionLimit start := by
  have aware : Aware (t.soughtIn start) (Text.Cursor.ofList start).toList := by
    intro x h
    obtain ⟨⟨symbol, v⟩, _, rfl⟩ := List.mem_map.1 h
    exact Text.Window.covers_whole symbol start
  have same : pairs (t.soughtIn start) = t.symbols := by
    rw [pairs, soughtIn, List.map_map]
    exact List.map_id _
  rw [expand, expandSought_eq _ _ _ _ aware, same]
  rfl

end Template
end Recital
