/-
# Renderings and the choices behind them

What a value may be rendered as, said without choices:

| value | as a pick | as an item |
| --- | --- | --- |
| a text | itself | itself |
| an array | one of its elements, as an item | all its elements as picks, with spaces between them |
| anything else | none | none |

A rendering takes room for the arrays that it goes into, one inside the other; an array that
holds nothing takes none.  It never needs more than the arrays of the value nest
(`Pick.of_nesting_le`).

A draw reads its choices from a source, and has room for some arrays.  Whatever the source, what
it makes of a value is a rendering with that room (`Pick.of_run`).  The other way round, a
rendering says which elements were chosen, and in which order: a script that lists their indices
makes the draw give that rendering, and is read just as far as they reach (`Pick.yields`).
-/

import Recital.Proofs.Stateful
import Recital.Template

namespace Recital
namespace Template

/-! ### Renderings -/

mutual

/-- The renderings of a value that stands for a symbol, or of an element of an item, that go into
at most `room` arrays. -/
inductive Pick : (room : Nat) → Value → Words → Prop where
  | text {room : Nat} (w : Words) : Pick room (.text w) w
  | element {room : Nat} {items : List Value} {v : Value} {w : Words} (mem : v ∈ items)
      (item : Item room v w) : Pick (room + 1) (.list items) w

/-- The renderings of an element that was chosen. -/
inductive Item : (room : Nat) → Value → Words → Prop where
  | sequence {room : Nat} {items : List Value} {parts : List Words}
      (each : Each room items parts) : Item room (.list items) (List.intercalate " " parts)
  | pick {room : Nat} {v : Value} {w : Words} (noArray : ∀ items, v ≠ .list items)
      (pick : Pick room v w) : Item room v w

/-- The renderings of all elements of an item. -/
inductive Each : (room : Nat) → List Value → List Words → Prop where
  | nil {room : Nat} : Each room [] []
  | cons {room : Nat} {v : Value} {w : Words} {vs : List Value} {ws : List Words}
      (first : Pick room v w) (rest : Each (room + 1) vs ws) : Each (room + 1) (v :: vs) (w :: ws)

end

/-! ### Room -/

end Template

namespace Value

mutual

/-- How deep the arrays of a value nest, without those that hold nothing. -/
def nesting : Value → Nat
  | .list items => nestingOf items
  | _ => 0

def nestingOf : List Value → Nat
  | [] => 0
  | v :: vs => max (nesting v + 1) (nestingOf vs)

end

theorem nesting_lt_nestingOf {v : Value} {items : List Value} (mem : v ∈ items) :
    v.nesting < nestingOf items := by
  induction items with
  | nil => cases mem
  | cons u us ih =>
    rw [nestingOf]
    rcases List.mem_cons.1 mem with rfl | later
    · exact Nat.le_max_left ..
    · exact Nat.lt_of_lt_of_le (ih later) (Nat.le_max_right ..)

end Value

namespace Template

mutual

/-- **A rendering needs no more room than the arrays of the value nest.** -/
theorem Pick.of_nesting_le {d room : Nat} : ∀ {v : Value} {w : Words}, v.nesting ≤ room →
    Pick d v w → Pick room v w
  | _, _, _, .text w => .text w
  | .list _, _, le, .element mem item => by
    have fits := Nat.lt_of_lt_of_le (Value.nesting_lt_nestingOf mem) le
    obtain ⟨room, rfl⟩ := Nat.exists_eq_add_one_of_ne_zero (Nat.ne_zero_of_lt fits)
    exact .element mem (item.of_nesting_le (Nat.le_of_lt_succ fits))

theorem Item.of_nesting_le {d room : Nat} : ∀ {v : Value} {w : Words}, v.nesting ≤ room →
    Item d v w → Item room v w
  | _, _, le, .sequence each => .sequence (each.of_nesting_le le)
  | _, _, le, .pick noArray pick => .pick noArray (pick.of_nesting_le le)

theorem Each.of_nesting_le {d room : Nat} : ∀ {items : List Value} {parts : List Words},
    Value.nestingOf items ≤ room → Each d items parts → Each room items parts
  | _, _, _, .nil => .nil
  | _ :: _, _, le, .cons first rest => by
    obtain ⟨fits, later⟩ := Nat.max_le.1 le
    obtain ⟨room, rfl⟩ := Nat.exists_eq_add_one_of_ne_zero (Nat.ne_zero_of_lt fits)
    exact .cons (first.of_nesting_le (Nat.le_of_succ_le_succ fits)) (rest.of_nesting_le later)

end

/-! ### Whatever the source -/

theorem run_throw {α : Type} {fault : Fault} {a : α} {c c' : Chooser} :
    (throw fault : Draw α).run c ≠ (.ok a, c') := by
  intro h
  cases h

/-- Only where there is room for it an array is gone into. -/
theorem exists_of_run_goInto {α : Type} {room : Nat} {x : Nat → Draw α} {a : α} {c c' : Chooser}
    (h : (goInto room x).run c = (.ok a, c')) :
    ∃ inside, room = inside + 1 ∧ (x inside).run c = (.ok a, c') := by
  cases room with
  | zero => exact absurd h run_throw
  | succ inside => exact ⟨inside, rfl, h⟩

mutual

/-- What a source makes of a value is a rendering of it. -/
theorem Pick.of_run {room : Nat} : ∀ (v : Value) {w : Words} {c c' : Chooser},
    (renderPick room v).run c = (.ok w, c') → Pick room v w
  | .text w, _, _, _, h => by
    cases h
    exact .text w
  | .list items, w, c, c', h => by
    rw [renderPick] at h
    split at h
    · exact absurd h run_throw
    · obtain ⟨inside, rfl, h⟩ := exists_of_run_goInto h
      obtain ⟨i, c₁, -, rendered⟩ := ExceptT.exists_of_run_bind_eq_ok h
      obtain ⟨v, mem, item⟩ := Item.of_run_nth items i rendered
      exact .element mem item
  | .null, _, _, _, h | .boolean _, _, _, _, h | .integer _, _, _, _, h | .real _, _, _, _, h
  | .object _, _, _, _, h => absurd h run_throw

theorem Item.of_run_nth {room : Nat} : ∀ (items : List Value) (i : Nat) {w : Words}
    {c c' : Chooser}, (renderNth room items i).run c = (.ok w, c') → ∃ v ∈ items, Item room v w
  | [], _, _, _, _, h => absurd h run_throw
  | v :: _, 0, _, _, _, h => ⟨v, List.mem_cons_self, Item.of_run v h⟩
  | _ :: vs, i + 1, _, _, _, h => by
    obtain ⟨v, mem, item⟩ := Item.of_run_nth vs i h
    exact ⟨v, List.mem_cons_of_mem _ mem, item⟩

theorem Item.of_run {room : Nat} : ∀ (v : Value) {w : Words} {c c' : Chooser},
    (renderItem room v).run c = (.ok w, c') → Item room v w
  | .text w, _, _, _, h => by
    cases h
    exact .pick (fun _ same => nomatch same) (.text w)
  | .list items, w, c, c', h => by
    rw [renderItem] at h
    obtain ⟨parts, c₁, rendered, joined⟩ := ExceptT.exists_of_run_bind_eq_ok h
    cases joined
    exact .sequence (Each.of_run items rendered)
  | .null, _, _, _, h | .boolean _, _, _, _, h | .integer _, _, _, _, h | .real _, _, _, _, h
  | .object _, _, _, _, h => absurd h run_throw

theorem Each.of_run {room : Nat} : ∀ (items : List Value) {parts : List Words} {c c' : Chooser},
    (renderEach room items).run c = (.ok parts, c') → Each room items parts
  | [], _, _, _, h => by
    cases h
    exact .nil
  | v :: vs, parts, c, c', h => by
    rw [renderEach] at h
    obtain ⟨w, c₁, first, later⟩ := ExceptT.exists_of_run_bind_eq_ok h
    obtain ⟨ws, c₂, rest, joined⟩ := ExceptT.exists_of_run_bind_eq_ok later
    obtain ⟨inside, rfl, first⟩ := exists_of_run_goInto first
    cases joined
    exact .cons (Pick.of_run v first) (Each.of_run vs rest)

end

/-! ### From a script -/

/-- Whether a draw gives `a` wherever its choices are read from a script that lists `used`
there, and reads no further. -/
def Yields {α : Type} (x : Draw α) (used : List Int) (a : α) : Prop :=
  ∀ (front back : List Int) (room : Room),
    x.run (.scripted (front ++ used ++ back) front.length room) =
      (.ok a, .scripted (front ++ used ++ back) (front.length + used.length) room)

namespace Yields

variable {α β : Type} {x : Draw α} {f : α → Draw β} {used more : List Int} {a : α} {b : β}

theorem pure (a : α) : Yields (Pure.pure a) [] a := fun _ _ _ => rfl

theorem bind (first : Yields x used a) (rest : Yields (f a) more b) :
    Yields (x >>= f) (used ++ more) b := by
  intro front back room
  have here := first front (more ++ back) room
  have there := rest (front ++ used) back room
  simp only [List.append_assoc, List.length_append] at here there ⊢
  rw [ExceptT.run_bind_of_ok here, there, Nat.add_assoc]

/-- The index in a script is the index that is chosen. -/
theorem chooseIndex {n i : Nat} (lt : i < n) : Yields (chooseIndex n) [(i : Int)] i := by
  intro front back room
  have place : front.length % (front ++ [(i : Int)] ++ back).length = front.length := by
    apply Nat.mod_eq_of_lt
    simp only [List.length_append, List.length_singleton]
    omega
  have entry : (front ++ [(i : Int)] ++ back)[front.length]? = some (i : Int) := by simp
  have index : ((i : Int) % (n : Int)).toNat = i := by
    rw [Int.emod_eq_of_lt (Int.natCast_nonneg i) (Int.ofNat_lt.2 lt), Int.toNat_natCast]
  have chosen : Chooser.scriptedPick (front ++ [(i : Int)] ++ back) front.length n = i := by
    rw [Chooser.scriptedPick, place, entry]
    exact index
  change (Except.ok (Chooser.scriptedPick _ front.length n), _) = _
  rw [chosen]
  rfl

/-- An element whose index is chosen is rendered as an item. -/
theorem renderNth {room : Nat} {items : List Value} {i : Nat} {v : Value} {w : Words}
    (here : items[i]? = some v) (item : Yields (renderItem room v) used w) :
    Yields (renderNth room items i) used w := by
  induction items generalizing i with
  | nil => cases here
  | cons u us ih =>
    cases i with
    | zero =>
      obtain rfl : u = v := Option.some.inj here
      exact item
    | succ i => exact ih here

end Yields

mutual

/-- A rendering is what some choices make of the value. -/
theorem Pick.yields : ∀ {room : Nat} {v : Value} {w : Words}, Pick room v w →
    ∃ used, Yields (renderPick room v) used w
  | _, _, _, .text w => ⟨[], Yields.pure w⟩
  | inside + 1, .list items, w, .element mem item => by
    obtain ⟨used, rendered⟩ := item.yields
    obtain ⟨i, here⟩ := List.mem_iff_getElem?.1 mem
    obtain ⟨lt, -⟩ := List.getElem?_eq_some_iff.1 here
    have nonempty : items.isEmpty = false := List.isEmpty_eq_false_iff.2 (List.ne_nil_of_mem mem)
    refine ⟨[(i : Int)] ++ used, ?_⟩
    rw [renderPick, nonempty]
    exact (Yields.chooseIndex lt).bind (Yields.renderNth here rendered)

theorem Item.yields : ∀ {room : Nat} {v : Value} {w : Words}, Item room v w →
    ∃ used, Yields (renderItem room v) used w
  | _, .list items, _, .sequence each => by
    obtain ⟨used, rendered⟩ := each.yields
    refine ⟨used ++ [], ?_⟩
    rw [renderItem]
    exact rendered.bind (Yields.pure _)
  | _, _, _, .pick _ (.text w) => ⟨[], Yields.pure w⟩
  | _, _, _, .pick noArray (.element _ _) => absurd rfl (noArray _)

theorem Each.yields : ∀ {room : Nat} {items : List Value} {parts : List Words},
    Each room items parts → ∃ used, Yields (renderEach room items) used parts
  | _, _, _, .nil => ⟨[], Yields.pure []⟩
  | _, _, _, .cons first rest => by
    obtain ⟨used, here⟩ := first.yields
    obtain ⟨more, later⟩ := rest.yields
    refine ⟨used ++ (more ++ []), ?_⟩
    rw [renderEach]
    exact here.bind (later.bind (Yields.pure _))

end

end Template
end Recital
