/-
# Strict reading of UTF-8

Bytes are read as characters exactly if they are the encoding of these characters
(`decode_eq_ok_iff`), so bytes that are not read are the encoding of no text.  A character is
decided by its lead byte and the continuation bytes behind it:

| code point | lead | continuations |
| --- | --- | --- |
| up to `7F` | the code point | |
| up to `7FF` | `C0` and 5 bits | one, of 6 bits |
| up to `FFFF` | `E0` and 4 bits | two |
| above | `F0` and 3 bits | three |

The bounds that the reader has for the first continuation byte leave out the code points of the
rows above, the surrogates, and what is above the last code point.
-/

import Recital.Proofs.Except
import Recital.Text.Utf8

namespace Recital
namespace Text
namespace Utf8

/-! ### Characters -/

/-- The value that continuation bytes add their bits to. -/
def shifted (value : Nat) (tail : List UInt8) : Nat :=
  tail.foldl (fun v b => 64 * v + b.toNat % 64) value

/-- Whether bytes continue a character, the first of them between bounds of its own. -/
def Continues (lo hi : Nat) : List UInt8 → Prop
  | [] => True
  | b :: tail => lo ≤ b.toNat ∧ b.toNat ≤ hi ∧ Continues 0x80 0xBF tail

theorem continuations_eq_ok {value lo hi n used : Nat} {rest : List UInt8} {c : Char} :
    continuations value lo hi n rest = (.ok c, used) ↔
      ∃ tail more, rest = tail ++ more ∧ tail.length = n ∧ used = n ∧ Continues lo hi tail ∧
        Char.ofNat (shifted value tail) = c := by
  induction n generalizing value lo hi rest used with
  | zero =>
    rw [continuations]
    constructor
    · intro h
      obtain ⟨same, rfl⟩ := Prod.mk.inj h
      exact ⟨[], rest, rfl, rfl, rfl, trivial, Except.ok.inj same⟩
    · rintro ⟨tail, more, -, none, rfl, -, same⟩
      obtain rfl := List.length_eq_zero_iff.1 none
      exact congrArg (fun c => (Except.ok c, 0)) same
  | succ n ih =>
    cases rest with
    | nil =>
      refine iff_of_false (fun h => nomatch h) ?_
      rintro ⟨tail, more, empty, length, -⟩
      rw [(List.append_eq_nil_iff.1 empty.symm).1] at length
      cases length
    | cons b bs =>
      rw [continuations]
      by_cases fits : lo ≤ b.toNat ∧ b.toNat ≤ hi
      · rw [if_pos fits]
        constructor
        · intro h
          obtain ⟨same, rfl⟩ := Prod.mk.inj h
          obtain ⟨tail, more, rfl, rfl, used, continues, point⟩ := ih.1 (Prod.ext same rfl)
          exact ⟨b :: tail, more, rfl, rfl, congrArg Nat.succ used,
            ⟨fits.1, fits.2, continues⟩, point⟩
        · rintro ⟨tail, more, split, length, rfl, continues, point⟩
          cases tail with
          | nil => cases length
          | cons b' tail =>
            obtain ⟨rfl, rfl⟩ := List.cons.inj split
            have read : continuations (64 * value + b.toNat % 64) 0x80 0xBF n (tail ++ more) =
                (.ok c, n) :=
              ih.2 ⟨tail, more, rfl, Nat.succ.inj length, rfl, continues.2.2, point⟩
            exact congrArg (fun result => (result.1, result.2 + 1)) read
      · rw [if_neg fits]
        refine iff_of_false (fun h => nomatch h) ?_
        rintro ⟨tail, more, split, length, -, continues, -⟩
        cases tail with
        | nil => cases length
        | cons b' tail =>
          obtain ⟨rfl, rfl⟩ := List.cons.inj split
          exact fits ⟨continues.1, continues.2.1⟩

/-- What a lead byte asks for, by the number of continuation bytes. -/
def Asks (a value count lo hi : Nat) : Prop :=
  (count = 0 ∧ a = value ∧ value < 0x80 ∧ lo = 0x80 ∧ hi = 0xBF) ∨
  (count = 1 ∧ a = value + 0xC0 ∧ 2 ≤ value ∧ value < 32 ∧ lo = 0x80 ∧ hi = 0xBF) ∨
  (count = 2 ∧ a = value + 0xE0 ∧ value < 16 ∧
    (lo = 0xA0 ∧ value = 0 ∨ lo = 0x80 ∧ value ≠ 0) ∧
    (hi = 0x9F ∧ value = 13 ∨ hi = 0xBF ∧ value ≠ 13)) ∨
  (count = 3 ∧ a = value + 0xF0 ∧ value < 5 ∧
    (lo = 0x90 ∧ value = 0 ∨ lo = 0x80 ∧ value ≠ 0) ∧
    (hi = 0x8F ∧ value = 4 ∨ hi = 0xBF ∧ value ≠ 4))

theorem ite_eq_iff_of {α : Type} {c p : Prop} [Decidable c] {x y z : α}
    (no : ¬ c → (y = z ↔ p)) (yes : c → (x = z ↔ p)) : (if c then x else y) = z ↔ p := by
  split
  · next h => exact yes h
  · next h => exact no h

theorem lead?_eq_some {a value count lo hi : Nat} :
    lead? a = some (value, count, lo, hi) ↔ Asks a value count lo hi := by
  unfold lead?
  -- The lead bytes are told apart in ascending order, the highest ones last.
  iterate 9 refine ite_eq_iff_of (fun _ => ?_) fun _ => ?_
  all_goals
    simp only [Option.some.injEq, Prod.mk.injEq, reduceCtorEq, false_iff]
    unfold Asks
    omega

/-- The encoding of a code point, by its range. -/
def codeBytes (v : Nat) : List Nat :=
  if v ≤ 0x7F then [v]
  else if v ≤ 0x7FF then [v / 64 + 0xC0, v % 64 + 0x80]
  else if v ≤ 0xFFFF then [v / 4096 + 0xE0, v / 64 % 64 + 0x80, v % 64 + 0x80]
  else [v / 262144 + 0xF0, v / 4096 % 64 + 0x80, v / 64 % 64 + 0x80, v % 64 + 0x80]

theorem map_toNat_utf8EncodeChar (c : Char) :
    (String.utf8EncodeChar c).map UInt8.toNat = codeBytes c.toNat := by
  have valid : c.val.toNat.isValidChar := c.valid
  unfold Nat.isValidChar at valid
  change (String.utf8EncodeChar c).map UInt8.toNat = codeBytes c.val.toNat
  unfold String.utf8EncodeChar codeBytes
  generalize c.val.toNat = v at valid ⊢
  dsimp only
  split_ifs <;> simp <;> omega

/-- A lead byte and its continuation bytes are the encoding of what they spell. -/
theorem codeBytes_shifted {a value lo hi : Nat} {tail : List UInt8}
    (lead : lead? a = some (value, tail.length, lo, hi)) (continues : Continues lo hi tail) :
    a :: tail.map UInt8.toNat = codeBytes (shifted value tail) ∧
      (shifted value tail).isValidChar := by
  unfold codeBytes Nat.isValidChar
  generalize point : shifted value tail = v
  rcases lead?_eq_some.1 lead with ⟨count, h⟩ | ⟨count, h⟩ | ⟨count, h⟩ | ⟨count, h⟩
  · obtain rfl := List.length_eq_zero_iff.1 count
    simp only [shifted, List.foldl_nil] at point
    rw [if_pos (by omega)]
    simp only [List.map_nil, List.cons.injEq, and_true]
    omega
  · obtain ⟨b, rfl⟩ := List.length_eq_one_iff.1 count
    simp only [Continues, and_true] at continues
    simp only [shifted, List.foldl_cons, List.foldl_nil] at point
    rw [if_neg (by omega), if_pos (by omega)]
    simp only [List.map_cons, List.map_nil, List.cons.injEq, and_true]
    omega
  · obtain ⟨b, c, rfl⟩ := List.length_eq_two.1 count
    simp only [Continues, and_true] at continues
    simp only [shifted, List.foldl_cons, List.foldl_nil] at point
    rw [if_neg (by omega), if_neg (by omega), if_pos (by omega)]
    simp only [List.map_cons, List.map_nil, List.cons.injEq, and_true]
    omega
  · obtain ⟨b, c, d, rfl⟩ := List.length_eq_three.1 count
    simp only [Continues, and_true] at continues
    simp only [shifted, List.foldl_cons, List.foldl_nil] at point
    rw [if_neg (by omega), if_neg (by omega), if_neg (by omega)]
    simp only [List.map_cons, List.map_nil, List.cons.injEq, and_true]
    omega

theorem exists_bound (special usual value exception : Nat) :
    ∃ bound, bound = special ∧ value = exception ∨ bound = usual ∧ value ≠ exception := by
  by_cases same : value = exception
  · exact ⟨special, .inl ⟨rfl, same⟩⟩
  · exact ⟨usual, .inr ⟨rfl, same⟩⟩

/-- The encoding of a code point is a lead byte with its continuation bytes. -/
theorem exists_lead? {v a : Nat} {tail : List UInt8} (valid : v.isValidChar)
    (encoded : a :: tail.map UInt8.toNat = codeBytes v) :
    ∃ value lo hi, lead? a = some (value, tail.length, lo, hi) ∧ Continues lo hi tail ∧
      shifted value tail = v := by
  unfold Nat.isValidChar at valid
  simp only [lead?_eq_some]
  unfold codeBytes at encoded
  split_ifs at encoded with one two three
  · obtain ⟨rfl, none⟩ := List.cons.inj encoded
    obtain rfl := List.map_eq_nil_iff.1 none
    exact ⟨a, 0x80, 0xBF, .inl ⟨rfl, rfl, by omega, rfl, rfl⟩, trivial, rfl⟩
  · obtain ⟨rfl, rest⟩ := List.cons.inj encoded
    obtain ⟨b, tail, rfl, here, none⟩ := List.map_eq_cons_iff.1 rest
    obtain rfl := List.map_eq_nil_iff.1 none
    refine ⟨v / 64, 0x80, 0xBF, .inr (.inl ⟨rfl, rfl, by omega, by omega, rfl, rfl⟩), ?_, ?_⟩
    · exact ⟨by omega, by omega, trivial⟩
    · simp only [shifted, List.foldl_cons, List.foldl_nil]
      omega
  · obtain ⟨rfl, rest⟩ := List.cons.inj encoded
    obtain ⟨b, tail, rfl, here, rest⟩ := List.map_eq_cons_iff.1 rest
    obtain ⟨c, tail, rfl, next, none⟩ := List.map_eq_cons_iff.1 rest
    obtain rfl := List.map_eq_nil_iff.1 none
    obtain ⟨lo, low⟩ := exists_bound 0xA0 0x80 (v / 4096) 0
    obtain ⟨hi, high⟩ := exists_bound 0x9F 0xBF (v / 4096) 13
    refine ⟨v / 4096, lo, hi, .inr (.inr (.inl ⟨rfl, rfl, by omega, low, high⟩)), ?_, ?_⟩
    · exact ⟨by omega, by omega, by omega, by omega, trivial⟩
    · simp only [shifted, List.foldl_cons, List.foldl_nil]
      omega
  · obtain ⟨rfl, rest⟩ := List.cons.inj encoded
    obtain ⟨b, tail, rfl, here, rest⟩ := List.map_eq_cons_iff.1 rest
    obtain ⟨c, tail, rfl, next, rest⟩ := List.map_eq_cons_iff.1 rest
    obtain ⟨d, tail, rfl, last, none⟩ := List.map_eq_cons_iff.1 rest
    obtain rfl := List.map_eq_nil_iff.1 none
    obtain ⟨lo, low⟩ := exists_bound 0x90 0x80 (v / 262144) 0
    obtain ⟨hi, high⟩ := exists_bound 0x8F 0xBF (v / 262144) 4
    refine ⟨v / 262144, lo, hi, .inr (.inr (.inr ⟨rfl, rfl, by omega, low, high⟩)), ?_, ?_⟩
    · exact ⟨by omega, by omega, by omega, by omega, by omega, by omega, trivial⟩
    · simp only [shifted, List.foldl_cons, List.foldl_nil]
      omega

/-- **A character is read from its encoding**, and only from it. -/
theorem character_eq_ok {a : UInt8} {rest : List UInt8} {c : Char} {used : Nat} :
    character a rest = (.ok c, used) ↔
      ∃ tail more, rest = tail ++ more ∧ used = tail.length ∧
        a :: tail = String.utf8EncodeChar c := by
  have encodes : ∀ tail : List UInt8, a :: tail = String.utf8EncodeChar c ↔
      a.toNat :: tail.map UInt8.toNat = codeBytes c.toNat := by
    intro tail
    rw [← map_toNat_utf8EncodeChar, ← List.map_cons]
    exact (List.map_injective_iff.2 fun x y => UInt8.toNat_inj.1).eq_iff.symm
  constructor
  · intro h
    unfold character at h
    split at h
    · cases h
    · next value count lo hi lead =>
      obtain ⟨tail, more, rfl, rfl, rfl, continues, rfl⟩ := continuations_eq_ok.1 h
      obtain ⟨bytes, valid⟩ := codeBytes_shifted lead continues
      have point : (Char.ofNat (shifted value tail)).toNat = shifted value tail := by
        rw [Char.ofNat, dif_pos valid]
        rfl
      exact ⟨tail, more, rfl, rfl, (encodes tail).2 (point.symm ▸ bytes)⟩
  · rintro ⟨tail, more, rfl, rfl, encoded⟩
    obtain ⟨value, lo, hi, lead, continues, point⟩ :=
      exists_lead? c.valid ((encodes tail).1 encoded)
    rw [character, lead]
    refine continuations_eq_ok.2 ⟨tail, more, rfl, rfl, rfl, continues, ?_⟩
    rw [point]
    exact Char.ofNat_toNat c

/-! ### Texts -/

theorem scan_skip (position skip : Nat) (bytes : List UInt8) :
    scan position skip bytes = scan (position + skip) 0 (bytes.drop skip) := by
  induction skip generalizing position bytes with
  | zero => rfl
  | succ skip ih =>
    cases bytes with
    | nil => rfl
    | cons a rest =>
      change scan (position + 1) skip rest = _
      rw [ih, List.drop_succ_cons, Nat.add_right_comm, Nat.add_assoc]

theorem scan_of_ok {a : UInt8} {rest : List UInt8} {c : Char} {used : Nat} (position : Nat)
    (h : character a rest = (.ok c, used)) :
    scan position 0 (a :: rest) = .ok c :: scan (position + 1 + used) 0 (rest.drop used) := by
  rw [scan, h, ← scan_skip]

theorem scan_of_error {a : UInt8} {rest : List UInt8} {reason : Reason} {used : Nat}
    (position : Nat) (h : character a rest = (.error reason, used)) :
    scan position 0 (a :: rest) =
      .error ⟨a, position, used + 1, reason⟩ :: scan (position + 1) used rest := by
  rw [scan, h]

/-- The induction is on the characters: each takes its own bytes, and the scan goes on behind
them. -/
theorem scan_eq_map_ok {position : Nat} {bytes : List UInt8} {cs : List Char} :
    scan position 0 bytes = cs.map .ok ↔ bytes = cs.flatMap String.utf8EncodeChar := by
  induction cs generalizing position bytes with
  | nil =>
    cases bytes with
    | nil => exact iff_of_true rfl rfl
    | cons a rest =>
      refine iff_of_false (fun h => ?_) (List.cons_ne_nil _ _)
      rw [scan] at h
      exact List.cons_ne_nil _ _ h
  | cons c cs ih =>
    cases bytes with
    | nil =>
      refine iff_of_false (fun h => nomatch h) fun h => ?_
      exact String.utf8EncodeChar_ne_nil (List.append_eq_nil_iff.1 h.symm).1
    | cons a rest =>
      rw [List.map_cons, List.flatMap_cons]
      constructor
      · intro scanned
        rcases read : character a rest with ⟨reason | c', used⟩
        · rw [scan_of_error position read] at scanned
          cases (List.cons.inj scanned).1
        · rw [scan_of_ok position read, List.cons.injEq] at scanned
          obtain ⟨⟨⟩, later⟩ := scanned
          obtain ⟨tail, more, rfl, rfl, encoded⟩ := character_eq_ok.1 read
          rw [List.drop_left] at later
          rw [← encoded, ← ih.1 later, List.cons_append]
      · intro split
        obtain ⟨a', tail, encoded⟩ :=
          List.exists_cons_of_ne_nil (String.utf8EncodeChar_ne_nil (c := c))
        rw [encoded, List.cons_append, List.cons.injEq] at split
        obtain ⟨rfl, rfl⟩ := split
        have read := character_eq_ok.2 ⟨tail, cs.flatMap String.utf8EncodeChar, rfl, rfl,
          encoded.symm⟩
        rw [scan_of_ok position read, List.drop_left, ih.2 rfl]

/-- **Bytes are read as characters exactly if they encode them.** -/
theorem decode_eq_ok_iff {bytes : List UInt8} {cs : List Char} :
    decode bytes = .ok cs ↔ bytes = cs.flatMap String.utf8EncodeChar := by
  have scanned := @scan_eq_map_ok 0 bytes cs
  rw [← List.forall₂_eq_eq_eq, List.forall₂_map_right_iff] at scanned
  rw [decode, Except.mapM_eq_ok, ← scanned]
  rfl

/-- Strict reading succeeds exactly for the encoding of a text. -/
theorem exists_decode_eq_ok_iff {bytes : List UInt8} :
    (∃ cs, decode bytes = .ok cs) ↔ bytes.toByteArray.IsValidUTF8 := by
  constructor
  · rintro ⟨cs, h⟩
    exact ⟨cs, congrArg List.toByteArray (decode_eq_ok_iff.1 h)⟩
  · rintro ⟨cs, h⟩
    refine ⟨cs, decode_eq_ok_iff.2 ?_⟩
    have same := congrArg (fun b : ByteArray => b.data.toList) h
    rwa [List.toList_data_toByteArray, List.utf8Encode, List.toList_data_toByteArray] at same

/-! ### Writing -/

theorem toList_loop (bs : ByteArray) (i : Nat) (before : List UInt8) :
    ByteArray.toList.loop bs i before = before.reverse ++ bs.data.toList.drop i := by
  fun_induction ByteArray.toList.loop bs i before with
  | case1 i before more ih =>
    have inside : i < bs.data.toList.length := more
    have here : bs.get! i = bs.data.toList[i] := getElem!_pos bs.data i more
    rw [ih, List.reverse_cons, List.append_assoc, here, List.singleton_append,
      List.getElem_cons_drop]
  | case2 i before no =>
    have outside : bs.data.toList.length ≤ i := Nat.not_lt.1 no
    rw [List.drop_of_length_le outside, List.append_nil]

/-- The bytes of a text are those of its characters. -/
theorem toList_toUTF8 (s : String) :
    s.toUTF8.toList = s.toList.flatMap String.utf8EncodeChar := by
  have bytes : s.toUTF8 = (s.toList.flatMap String.utf8EncodeChar).toByteArray :=
    String.utf8Encode_toList.symm
  rw [ByteArray.toList, toList_loop, bytes, List.toList_data_toByteArray]
  rfl

end Utf8
end Text
end Recital
