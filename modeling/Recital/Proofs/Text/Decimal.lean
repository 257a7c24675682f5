/-
# Decimals

A decimal is a sign, or none, and digits, of which there is at least one:

| sign | text | value |
| --- | --- | --- |
| none | digits | what the digits spell |
| `+` | sign, digits | the same |
| `-` | sign, digits | its opposite |

A decimal is read as its value exactly if it has no more than `digitLimit` digits; zeros in
front count like other digits (`wholeNumber?_text`).
-/

import Recital.Text.Numeral

namespace Recital
namespace Text

/-- The signs of decimals. -/
inductive Sign where
  | none
  | plus
  | minus

/-- A sign as it is written. -/
def Sign.text : Sign → List Char
  | .none => []
  | .plus => ['+']
  | .minus => ['-']

/-- A number with a sign. -/
def Sign.apply : Sign → Nat → Int
  | .none, n => n
  | .plus, n => n
  | .minus, n => -n

/-- A decimal. -/
structure Decimal where
  sign : Sign
  digits : List (Fin 10)
  nonempty : digits ≠ []

namespace Decimal

/-- A decimal as it is written. -/
def text (d : Decimal) : String :=
  String.ofList (d.sign.text ++ d.digits.map fun i : Fin 10 => Nat.digitChar i)

/-- The number that a decimal stands for. -/
def value (d : Decimal) : Int := d.sign.apply (ofDigits (d.digits.map Fin.val))

/-- A decimal with more zeros in front. -/
def padded (n : Nat) (d : Decimal) : Decimal :=
  ⟨d.sign, List.replicate n 0 ++ d.digits, List.append_ne_nil_of_right_ne_nil _ d.nonempty⟩

/-- Zeros in front do not change the value. -/
theorem value_padded (n : Nat) (d : Decimal) : (d.padded n).value = d.value := by
  rw [value, value, padded, List.map_append, List.map_replicate]
  congr 1
  induction n with
  | zero => rfl
  | succ n ih => exact ih

end Decimal

/-! ### Digits -/

theorem digit?_digitChar (i : Fin 10) : digit? (Nat.digitChar i) = some i.val := by
  revert i
  decide

/-- A digit is neither of the signs, nor what may stand between digits. -/
theorem digitChar_notMem (i : Fin 10) : Nat.digitChar i ∉ ['-', '+', '_'] := by
  revert i
  decide

theorem isPadding_digitChar (i : Fin 10) : isPadding (Nat.digitChar i) = false := by
  revert i
  decide

/-- Digits that stand side by side are read one by one. -/
theorem digits?_map_digitChar {ds : List (Fin 10)} (h : ds ≠ []) :
    digits? (ds.map fun i : Fin 10 => Nat.digitChar i) = some (ds.map Fin.val) := by
  induction ds with
  | nil => exact absurd rfl h
  | cons i ds ih =>
    cases ds with
    | nil =>
      rw [List.map_cons, List.map_nil, digits?, digit?_digitChar]
      rfl
    | cons j ds =>
      have rest := ih (List.cons_ne_nil j ds)
      rw [List.map_cons] at rest ⊢
      rw [List.map_cons, digits?, digit?_digitChar, rest]
      · rfl
      · exact fun same => List.cons_ne_nil _ _ same
      · exact fun _ same => digitChar_notMem j (by simp [(List.cons.inj same).1])

theorem natural?_map_digitChar {ds : List (Fin 10)} (h : ds ≠ []) :
    natural? (ds.map fun i : Fin 10 => Nat.digitChar i) =
      if ds.length ≤ digitLimit then some (ofDigits (ds.map Fin.val)) else none := by
  rw [natural?, digits?_map_digitChar h]
  simp

/-! ### Decimals -/

/-- Nothing is trimmed off a text without padding. -/
theorem trimPadding_eq_self {cs : List Char} (h : ∀ c ∈ cs, isPadding c = false) :
    trimPadding cs = cs := by
  have keep (ds : List Char) (mem : ∀ c ∈ ds, isPadding c = false) :
      ds.dropWhile isPadding = ds := by
    cases ds with
    | nil => rfl
    | cons c ds => exact List.dropWhile_cons_of_neg (by simp [mem c List.mem_cons_self])
  rw [trimPadding, keep cs h, keep cs.reverse fun c mem => h c (List.mem_reverse.1 mem),
    List.reverse_reverse]

namespace Decimal

theorem isPadding_of_mem (d : Decimal) {c : Char} (mem : c ∈ d.text.toList) :
    isPadding c = false := by
  rw [text, String.toList_ofList, List.mem_append] at mem
  rcases mem with sign | digit
  · cases h : d.sign with
    | none => rw [h] at sign; cases sign
    | plus => rw [h] at sign; rw [List.mem_singleton.1 sign]; decide
    | minus => rw [h] at sign; rw [List.mem_singleton.1 sign]; decide
  · obtain ⟨i, _, rfl⟩ := List.mem_map.1 digit
    exact isPadding_digitChar i

theorem text_ne_marker (d : Decimal) : d.text ≠ "--" := by
  intro same
  obtain ⟨i, ds, digits⟩ := List.exists_cons_of_ne_nil d.nonempty
  have mem : Nat.digitChar i ∈ d.text.toList := by
    rw [text, String.toList_ofList, digits]
    exact List.mem_append_right _ List.mem_cons_self
  rw [same] at mem
  have minus : Nat.digitChar i = '-' := by
    rcases List.mem_cons.1 mem with minus | mem
    · exact minus
    · exact List.mem_singleton.1 mem
  exact digitChar_notMem i (by simp [minus])

/-- **A decimal is read as its value**, unless it is too long to be read. -/
theorem wholeNumber?_text (d : Decimal) :
    wholeNumber? d.text = if d.digits.length ≤ digitLimit then some d.value else none := by
  have whole := trimPadding_eq_self fun _ mem => d.isPadding_of_mem mem
  have number := natural?_map_digitChar d.nonempty
  rw [wholeNumber?, whole, text, String.toList_ofList, value]
  cases d.sign with
  | none =>
    obtain ⟨i, ds, first⟩ := List.exists_cons_of_ne_nil d.nonempty
    rw [Sign.text, List.nil_append]
    split
    · next same =>
      rw [first, List.map_cons] at same
      exact absurd (by simp [(List.cons.inj same).1]) (digitChar_notMem i)
    · next same =>
      rw [first, List.map_cons] at same
      exact absurd (by simp [(List.cons.inj same).1]) (digitChar_notMem i)
    · rw [number]
      split <;> rfl
  | plus =>
    change Option.map _ (natural? (d.digits.map fun i : Fin 10 => Nat.digitChar i) >>= _) = _
    rw [number]
    split <;> rfl
  | minus =>
    change Option.map _ (natural? (d.digits.map fun i : Fin 10 => Nat.digitChar i) >>= _) = _
    rw [number]
    split <;> rfl

end Decimal
end Text
end Recital
