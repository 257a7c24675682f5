/-
# The grammar of the reader

What a row of lexemes spells is said here by a grammar: `Spells room d ls v` for a whole value
with `d` containers open around it, and `Inside room d ls f` for a container that has been opened
and whose next value is due, with what it holds in the frame `f`.  There is room for `room`
containers at a time.

| lexemes | spell |
| --- | --- |
| a text, a scalar | themselves |
| an opening and its closing | the empty container |
| `Inside`, a value, the closing | the container with this value last |

Where a value is due, with some containers open, is `Due`.  The reader goes through the lexemes
once and keeps a state.  From left to right each state has a meaning in the grammar that a step
preserves (`Means.step`), and from wherever a value is due it follows every derivation of one
(`Spells.followed`).  So the reader gives a value exactly if the lexemes spell it
(`read_eq_ok_iff`), and goes beyond a limit exactly at a lexeme that is too much where a value is
due (`read_eq_beyond_iff`).  All other texts are malformed.
-/

import Recital.Json.Document
import Recital.Proofs.Except

namespace Recital
namespace Json

/-! ### The grammar -/

/-- The container that holds nothing. -/
def Container.empty : Container → Value
  | .array => .list []
  | .object => .object []

mutual

/-- A container whose next value is due, with `d` containers open around it. -/
inductive Inside (room : Nat) : Nat → List Lexeme → Frame → Prop where
  | array {d : Nat} : Inside room d [.opening .array] (.array [])
  | item {d : Nat} {ls us : List Lexeme} {items : List Value} {v : Value}
      (before : Inside room d ls (.array items)) (value : Spells room (d + 1) us v) :
      Inside room d (ls ++ us ++ [.comma]) (.array (v :: items))
  | object {d : Nat} {key : Words} :
      Inside room d [.opening .object, .text key, .colon] (.object [] key)
  | member {d : Nat} {ls us : List Lexeme} {members : List (Words × Value)} {key next : Words}
      {v : Value} (before : Inside room d ls (.object members key))
      (value : Spells room (d + 1) us v) :
      Inside room d (ls ++ us ++ [.comma, .text next, .colon])
        (.object (Value.put key v members) next)

/-- A value with `d` containers open around it. -/
inductive Spells (room : Nat) : Nat → List Lexeme → Value → Prop where
  | text {d : Nat} {w : Words} : Spells room d [.text w] (.text w)
  | scalar {d : Nat} {v : Value} : Spells room d [.scalar v] v
  | empty {d : Nat} {c : Container} (fits : d < room) :
      Spells room d [.opening c, .closing c] c.empty
  | array {d : Nat} {ls us : List Lexeme} {items : List Value} {v : Value} (fits : d < room)
      (before : Inside room d ls (.array items)) (last : Spells room (d + 1) us v) :
      Spells room d (ls ++ us ++ [.closing .array]) (.list (v :: items).reverse)
  | object {d : Nat} {ls us : List Lexeme} {members : List (Words × Value)} {key : Words}
      {v : Value} (fits : d < room) (before : Inside room d ls (.object members key))
      (last : Spells room (d + 1) us v) :
      Spells room d (ls ++ us ++ [.closing .object]) (.object (Value.put key v members))

end

/-- Lexemes behind which a value is due, with the containers that are open there. -/
inductive Due (room : Nat) : List Lexeme → List Frame → Prop where
  | start : Due room [] []
  | inside {ls us : List Lexeme} {stack : List Frame} {frame : Frame} (outer : Due room ls stack)
      (fits : stack.length < room) (inner : Inside room stack.length us frame) :
      Due room (ls ++ us) (frame :: stack)

/-- What is too much where a value is due with `d` containers open, and the limit it goes
beyond. -/
inductive TooMuch (room d : Nat) : Lexeme → Limit → Prop where
  | depth {c : Container} (deep : room ≤ d) : TooMuch room d (.opening c) (.depth c)
  | digits {n : Nat} (long : Text.digitLimit < n) : TooMuch room d (.longInteger n) (.digits n)

variable {room : Nat} {ls us : List Lexeme} {l : Lexeme} {st st' : State} {stack : List Frame}
  {v : Value}

/-! ### From derivations to runs -/

/-- Whether the reader goes from one state to another on tokens with some lexemes, wherever they
stand. -/
def Runs (room : Nat) (st : State) (ls : List Lexeme) (st' : State) : Prop :=
  ∀ ts : List Token, ts.map Token.lexeme = ls → ts.foldlM (State.step room) st = .ok st'

theorem Runs.append {st'' : State} (first : Runs room st ls st') (rest : Runs room st' us st'') :
    Runs room st (ls ++ us) st'' := by
  intro ts split
  obtain ⟨front, back, rfl, frontLexemes, backLexemes⟩ := List.map_eq_append_iff.1 split
  rw [List.foldlM_append, first front frontLexemes]
  exact rest back backLexemes

theorem Runs.single (h : ∀ start, st.step room ⟨start, l⟩ = .ok st') :
    Runs room st [l] st' := by
  intro ts single
  obtain ⟨⟨start, l⟩, rfl, rfl⟩ := List.map_eq_singleton_iff.1 single
  rw [List.foldlM_cons, h start]
  rfl

/-- Whether a state waits for a value with some containers open: an array that was just opened
also waits for its end. -/
inductive Awaits : State → List Frame → Prop where
  | value {stack : List Frame} : Awaits (.value stack) stack
  | firstItem {stack : List Frame} : Awaits (.firstItem stack) (.array [] :: stack)

/-- What does not close an array is read as a value where one is due. -/
theorem Awaits.step (h : Awaits st stack) {t : Token} (goesOn : t.lexeme ≠ .closing .array) :
    st.step room t = State.read room stack t := by
  cases h with
  | value => rfl
  | firstItem =>
    obtain ⟨start, l⟩ := t
    cases l with
    | closing c =>
      cases c with
      | array => exact absurd rfl goesOn
      | object => rfl
    | _ => rfl

/-- The state after a container was opened. -/
def opened (stack : List Frame) : Container → State
  | .array => .firstItem stack
  | .object => .firstKey stack

theorem enter_eq (c : Container) (stack : List Frame) :
    State.enter room c stack =
      if room ≤ stack.length then .error (.beyond (.depth c)) else .ok (opened stack c) := by
  cases c <;> rfl

theorem Awaits.opening (h : Awaits st stack) (c : Container) (fits : stack.length < room) :
    Runs room st [.opening c] (opened stack c) := by
  refine Runs.single fun start => ?_
  rw [h.step Lexeme.noConfusion]
  exact (enter_eq c stack).trans (if_neg (Nat.not_le.2 fits))

theorem Awaits.text (h : Awaits st stack) (w : Words) :
    Runs room st [.text w] (State.supply (.text w) stack) :=
  Runs.single fun _ => h.step Lexeme.noConfusion

theorem Awaits.scalar (h : Awaits st stack) (v : Value) :
    Runs room st [.scalar v] (State.supply v stack) :=
  Runs.single fun _ => h.step Lexeme.noConfusion

theorem runs_closing (c : Container) (stack : List Frame) :
    Runs room (opened stack c) [.closing c] (State.supply c.empty stack) :=
  Runs.single fun _ => by cases c <;> rfl

/-- Whether the reader follows lexemes into a container, from wherever a value is due. -/
def Entered (room : Nat) (d : Nat) (us : List Lexeme) (frame : Frame) : Prop :=
  ∀ st stack, stack.length = d → d < room → Awaits st stack →
    ∃ st', Runs room st us st' ∧ Awaits st' (frame :: stack)

/-- Whether the reader follows lexemes through a value, from wherever one is due. -/
def Followed (room : Nat) (d : Nat) (us : List Lexeme) (v : Value) : Prop :=
  ∀ st stack, stack.length = d → Awaits st stack → Runs room st us (State.supply v stack)

section Steps

variable {d : Nat} {items : List Value} {members : List (Words × Value)} {key next : Words}

theorem entered_array : Entered room d [.opening .array] (.array []) := by
  rintro st stack rfl fits awaits
  exact ⟨_, awaits.opening .array fits, .firstItem⟩

theorem entered_object : Entered room d [.opening .object, .text key, .colon] (.object [] key) := by
  rintro st stack rfl fits awaits
  have named : Runs room (opened stack .object) [.text key, .colon]
      (.value (.object [] key :: stack)) :=
    (Runs.single fun _ => rfl).append (Runs.single fun _ => rfl)
  exact ⟨_, (awaits.opening .object fits).append named, .value⟩

theorem Entered.item (before : Entered room d ls (.array items))
    (value : Followed room (d + 1) us v) :
    Entered room d (ls ++ us ++ [.comma]) (.array (v :: items)) := by
  rintro st stack rfl fits awaits
  obtain ⟨st₁, entered, awaits₁⟩ := before st stack rfl fits awaits
  have read := value st₁ (.array items :: stack) rfl awaits₁
  exact ⟨_, (entered.append read).append (Runs.single fun _ => rfl), .value⟩

theorem Entered.member (before : Entered room d ls (.object members key))
    (value : Followed room (d + 1) us v) (next : Words) :
    Entered room d (ls ++ us ++ [.comma, .text next, .colon])
      (.object (Value.put key v members) next) := by
  rintro st stack rfl fits awaits
  obtain ⟨st₁, entered, awaits₁⟩ := before st stack rfl fits awaits
  have read := value st₁ (.object members key :: stack) rfl awaits₁
  have named : Runs room (.afterMember (Value.put key v members) stack) [.comma, .text next, .colon]
      (.value (.object (Value.put key v members) next :: stack)) :=
    ((Runs.single fun _ => rfl).append (Runs.single fun _ => rfl)).append
      (Runs.single fun _ => rfl)
  exact ⟨_, (entered.append read).append named, .value⟩

theorem followed_text (w : Words) : Followed room d [.text w] (.text w) :=
  fun _ _ _ awaits => awaits.text w

theorem followed_scalar (v : Value) : Followed room d [.scalar v] v :=
  fun _ _ _ awaits => awaits.scalar v

theorem followed_empty (c : Container) (fits : d < room) :
    Followed room d [.opening c, .closing c] c.empty := by
  rintro st stack rfl awaits
  exact (awaits.opening c fits).append (runs_closing c stack)

theorem Entered.array (fits : d < room) (before : Entered room d ls (.array items))
    (last : Followed room (d + 1) us v) :
    Followed room d (ls ++ us ++ [.closing .array]) (.list (v :: items).reverse) := by
  rintro st stack rfl awaits
  obtain ⟨st₁, entered, awaits₁⟩ := before st stack rfl fits awaits
  have read := last st₁ (.array items :: stack) rfl awaits₁
  exact (entered.append read).append (Runs.single fun _ => rfl)

theorem Entered.object (fits : d < room) (before : Entered room d ls (.object members key))
    (last : Followed room (d + 1) us v) :
    Followed room d (ls ++ us ++ [.closing .object]) (.object (Value.put key v members)) := by
  rintro st stack rfl awaits
  obtain ⟨st₁, entered, awaits₁⟩ := before st stack rfl fits awaits
  have read := last st₁ (.object members key :: stack) rfl awaits₁
  exact (entered.append read).append (Runs.single fun _ => rfl)

end Steps

mutual

theorem Inside.entered {d : Nat} {us : List Lexeme} {frame : Frame} :
    Inside room d us frame → Entered room d us frame
  | .array => entered_array
  | .object => entered_object
  | .item before value => before.entered.item value.followed
  | .member before value => before.entered.member value.followed _

theorem Spells.followed {d : Nat} {us : List Lexeme} {v : Value} :
    Spells room d us v → Followed room d us v
  | .text => followed_text _
  | .scalar => followed_scalar _
  | .empty fits => followed_empty _ fits
  | .array fits before last => Entered.array fits before.entered last.followed
  | .object fits before last => Entered.object fits before.entered last.followed

end

/-- Where a value is due, the reader waits for one. -/
theorem Due.runs (h : Due room ls stack) :
    ∃ st, Runs room (.value []) ls st ∧ Awaits st stack := by
  induction h with
  | start => exact ⟨_, fun ts none => by rw [List.map_eq_nil_iff.1 none]; rfl, .value⟩
  | inside _ fits inner ih =>
    obtain ⟨st, outer, awaits⟩ := ih
    obtain ⟨st', entered, awaits'⟩ := inner.entered st _ rfl fits awaits
    exact ⟨st', outer.append entered, awaits'⟩

/-! ### From runs to derivations -/

/-- Lexemes that end with the opening of a container that may be opened there. -/
def Opened (room : Nat) (c : Container) (ls : List Lexeme) (stack : List Frame) : Prop :=
  ∃ front, ls = front ++ [.opening c] ∧ Due room front stack ∧ stack.length < room

/-- Lexemes that end with a value of an array. -/
def BehindItem (room : Nat) (items : List Value) (ls : List Lexeme) (stack : List Frame) : Prop :=
  ∃ front us old v, ls = front ++ us ∧ Due room front (.array old :: stack) ∧
    Spells room (stack.length + 1) us v ∧ items = v :: old

/-- Lexemes that end with a value of an object. -/
def BehindMember (room : Nat) (members : List (Words × Value)) (ls : List Lexeme)
    (stack : List Frame) : Prop :=
  ∃ front us old key v, ls = front ++ us ∧ Due room front (.object old key :: stack) ∧
    Spells room (stack.length + 1) us v ∧ members = Value.put key v old

/-- Lexemes behind which a key is due. -/
def DueKey (room : Nat) (members : List (Words × Value)) (ls : List Lexeme)
    (stack : List Frame) : Prop :=
  Opened room .object ls stack ∧ members = [] ∨
    ∃ front, ls = front ++ [.comma] ∧ BehindMember room members front stack

/-- What a state means for the lexemes that led to it. -/
def Means (room : Nat) (ls : List Lexeme) : State → Prop
  | .value stack => Due room ls stack
  | .firstItem stack => Opened room .array ls stack
  | .firstKey stack => Opened room .object ls stack
  | .nextKey members stack => DueKey room members ls stack
  | .colon members key stack =>
    ∃ front, ls = front ++ [.text key] ∧ DueKey room members front stack
  | .afterItem items stack => BehindItem room items ls stack
  | .afterMember members stack => BehindMember room members ls stack
  | .done v => Spells room 0 ls v

/-- Where a value was due, the state behind it means that it is there. -/
theorem Due.means_supply (h : Due room ls stack) (value : Spells room stack.length us v) :
    Means room (ls ++ us) (State.supply v stack) := by
  cases h with
  | start => exact value
  | @inside front inner stack frame outer fits within =>
    cases frame with
    | array items => exact ⟨_, us, items, v, rfl, .inside outer fits within, value, rfl⟩
    | object members key =>
      exact ⟨_, us, members, key, v, rfl, .inside outer fits within, value, rfl⟩

theorem Opened.due (h : Opened room .array ls stack) : Due room ls (.array [] :: stack) := by
  obtain ⟨front, rfl, due, fits⟩ := h
  exact .inside due fits .array

theorem Opened.empty {c : Container} (h : Opened room c ls stack) :
    Means room (ls ++ [.closing c]) (State.supply c.empty stack) := by
  obtain ⟨front, rfl, due, fits⟩ := h
  rw [List.append_assoc]
  exact due.means_supply (.empty fits)

/-- Where the reader waits for a value, one is due. -/
theorem Awaits.due (h : Awaits st stack) (means : Means room ls st) : Due room ls stack := by
  cases h with
  | value => exact means
  | firstItem => exact Opened.due means

/-- A container that is open was opened where a value was due, and nothing is missing in it. -/
theorem Due.exists_inside {frame : Frame} (h : Due room ls (frame :: stack)) :
    ∃ front us, ls = front ++ us ∧ Due room front stack ∧ stack.length < room ∧
      Inside room stack.length us frame := by
  cases h with
  | inside outer fits within => exact ⟨_, _, rfl, outer, fits, within⟩

theorem BehindItem.comma {items : List Value} (h : BehindItem room items ls stack) :
    Due room (ls ++ [.comma]) (.array items :: stack) := by
  obtain ⟨front, us, old, v, rfl, due, value, rfl⟩ := h
  obtain ⟨outer, inner, rfl, dueOuter, fits, within⟩ := due.exists_inside
  rw [List.append_assoc outer, List.append_assoc outer]
  exact .inside dueOuter fits (.item within value)

theorem BehindItem.closing {items : List Value} (h : BehindItem room items ls stack) :
    Means room (ls ++ [.closing .array]) (State.supply (.list items.reverse) stack) := by
  obtain ⟨front, us, old, v, rfl, due, value, rfl⟩ := h
  obtain ⟨outer, inner, rfl, dueOuter, fits, within⟩ := due.exists_inside
  rw [List.append_assoc outer, List.append_assoc outer]
  exact dueOuter.means_supply (.array fits within value)

theorem BehindMember.closing {members : List (Words × Value)}
    (h : BehindMember room members ls stack) :
    Means room (ls ++ [.closing .object]) (State.supply (.object members) stack) := by
  obtain ⟨front, us, old, key, v, rfl, due, value, rfl⟩ := h
  obtain ⟨outer, inner, rfl, dueOuter, fits, within⟩ := due.exists_inside
  rw [List.append_assoc outer, List.append_assoc outer]
  exact dueOuter.means_supply (.object fits within value)

theorem DueKey.named {members : List (Words × Value)} (h : DueKey room members ls stack)
    (key : Words) : Due room (ls ++ [.text key, .colon]) (.object members key :: stack) := by
  rcases h with ⟨⟨front, rfl, due, fits⟩, rfl⟩ | ⟨front, rfl, behind⟩
  · rw [List.append_assoc]
    exact .inside due fits .object
  · obtain ⟨front, us, old, before, v, rfl, due, value, rfl⟩ := behind
    obtain ⟨outer, inner, rfl, dueOuter, fits, within⟩ := due.exists_inside
    rw [List.append_assoc (outer ++ inner ++ us), List.append_assoc outer,
      List.append_assoc outer]
    exact .inside dueOuter fits (.member within value)

/-- A token that is read as a value where one is due. -/
theorem Due.means_read (h : Due room ls stack) {t : Token}
    (read : State.read room stack t = .ok st) :
    Means room (ls ++ [t.lexeme]) st := by
  obtain ⟨start, l⟩ := t
  cases l with
  | opening c =>
    change State.enter room c stack = .ok st at read
    rw [enter_eq] at read
    split at read
    · cases read
    · next fits =>
      cases read
      cases c <;> exact ⟨ls, rfl, h, Nat.lt_of_not_le fits⟩
  | text w =>
    cases read
    exact h.means_supply .text
  | scalar v =>
    cases read
    exact h.means_supply .scalar
  | _ => cases read

/-- What does not close an object that was just opened is read as a key. -/
theorem step_firstKey {t : Token} (goesOn : t.lexeme ≠ .closing .object) :
    (State.firstKey stack).step room t = State.readKey [] stack t := by
  obtain ⟨start, l⟩ := t
  cases l with
  | closing c =>
    cases c with
    | array => rfl
    | object => exact absurd rfl goesOn
  | _ => rfl

/-- A token that is read as a key where one is due. -/
theorem DueKey.means_readKey {members : List (Words × Value)} (h : DueKey room members ls stack)
    {t : Token} (read : State.readKey members stack t = .ok st) :
    Means room (ls ++ [t.lexeme]) st := by
  obtain ⟨start, l⟩ := t
  cases l with
  | text key =>
    cases read
    exact ⟨ls, rfl, h⟩
  | _ => cases read

/-- **A step preserves what states mean.** -/
theorem Means.step (h : Means room ls st) {t : Token} (next : st.step room t = .ok st') :
    Means room (ls ++ [t.lexeme]) st' := by
  cases st with
  | value stack => exact Due.means_read h next
  | firstItem stack =>
    -- An array that was just opened may be closed at once; anything else is its first value.
    by_cases closes : t.lexeme = .closing .array
    · obtain ⟨start, l⟩ := t
      obtain rfl : l = .closing .array := closes
      cases next
      exact Opened.empty h
    · rw [Awaits.firstItem.step closes] at next
      exact (Opened.due h).means_read next
  | firstKey stack =>
    by_cases closes : t.lexeme = .closing .object
    · obtain ⟨start, l⟩ := t
      obtain rfl : l = .closing .object := closes
      cases next
      exact Opened.empty h
    · rw [step_firstKey closes] at next
      exact DueKey.means_readKey (.inl ⟨h, rfl⟩) next
  | nextKey members stack => exact DueKey.means_readKey h next
  | colon members key stack =>
    obtain ⟨start, l⟩ := t
    cases l with
    | colon =>
      cases next
      obtain ⟨front, rfl, key⟩ := h
      rw [List.append_assoc]
      exact key.named _
    | _ => cases next
  | afterItem items stack =>
    obtain ⟨start, l⟩ := t
    cases l with
    | comma =>
      cases next
      exact BehindItem.comma h
    | closing c =>
      cases c with
      | array =>
        cases next
        exact BehindItem.closing h
      | object => cases next
    | _ => cases next
  | afterMember members stack =>
    obtain ⟨start, l⟩ := t
    cases l with
    | comma =>
      cases next
      exact .inr ⟨ls, rfl, h⟩
    | closing c =>
      cases c with
      | array => cases next
      | object =>
        cases next
        exact BehindMember.closing h
    | _ => cases next
  | done v => cases next

/-- **A run preserves what states mean.** -/
theorem Means.run {ts : List Token} (h : Means room ls st)
    (run : ts.foldlM (State.step room) st = .ok st') :
    Means room (ls ++ ts.map Token.lexeme) st' := by
  induction ts generalizing ls st with
  | nil =>
    cases run
    rwa [List.map_nil, List.append_nil]
  | cons t ts ih =>
    obtain ⟨middle, next, rest⟩ := Except.bind_eq_ok.1 run
    rw [List.map_cons, List.append_cons]
    exact ih (h.step next) rest

/-! ### Integers that are too long -/

theorem digitLimit_lt_of_number? {negative : Bool} {cs : List Char} {n used : Nat}
    (h : number? negative cs = some (.longInteger n, used)) : Text.digitLimit < n := by
  unfold number? at h
  dsimp only at h
  split at h
  · cases h
  · split at h
    · cases h
    · split at h
      · split at h
        · next long =>
          cases h
          exact long
        · cases h
      · cases h

theorem digitLimit_lt_of_lexeme {position n used : Nat} {c : Char} {rest : List Char}
    (h : lexeme position c rest = (.longInteger n, used)) : Text.digitLimit < n := by
  unfold lexeme at h
  split at h
  · cases h
  · -- Six single characters, then the quotation mark and the sign in front of a number.
    iterate 6 obtain ⟨-, ⟨⟩⟩ | ⟨-, h⟩ := ite_eq_iff.1 h
    obtain ⟨-, h⟩ | ⟨-, h⟩ := ite_eq_iff.1 h
    · unfold textLexeme at h
      split at h <;> cases h
    obtain ⟨-, h⟩ | ⟨-, h⟩ := ite_eq_iff.1 h
    · cases number : number? true rest with
      | none =>
        rw [number] at h
        cases h
      | some found =>
        rw [number] at h
        obtain rfl : found = (.longInteger n, used) := h
        exact digitLimit_lt_of_number? number
    · split at h
      · next number =>
        cases h
        exact digitLimit_lt_of_number? number
      · cases h

/-- Whether a token that is said to be too long an integer is one. -/
def Token.Honest (t : Token) : Prop := ∀ n, t.lexeme = .longInteger n → Text.digitLimit < n

theorem honest_of_mem_tokensFrom {text : List Char} {position skip : Nat} {t : Token}
    (mem : t ∈ tokensFrom position skip text) : t.Honest := by
  induction text generalizing position skip with
  | nil => cases mem
  | cons c rest ih =>
    cases skip with
    | succ skip => exact ih mem
    | zero =>
      rw [tokensFrom] at mem
      split at mem
      · exact ih mem
      · rcases List.mem_cons.1 mem with rfl | later
        · exact fun n long => digitLimit_lt_of_lexeme (Prod.ext long rfl)
        · exact ih later

/-! ### What is read, and where the reader gives up -/

variable {text : List Char}

/-- The lexemes of a text. -/
def lexemes (text : List Char) : List Lexeme := (tokens text).map Token.lexeme

/-- The sign of byte order in front of a text. -/
def HasMark (text : List Char) : Prop := text.head? = some (Char.ofNat 0xFEFF)

theorem read_of_marked (marked : HasMark text) :
    read room text = .error (.malformed .byteOrderMark 0) :=
  if_pos marked

theorem read_of_unmarked (plain : ¬ HasMark text) :
    read room text =
      (tokens text).foldlM (State.step room) (.value []) >>= State.finish text.length :=
  if_neg plain

theorem finish_eq_ok {stop : Nat} : st.finish stop = .ok v ↔ st = .done v := by
  cases st with
  | done w => exact ⟨fun h => by cases h; rfl, fun h => by cases h; rfl⟩
  | _ => exact iff_of_false (fun h => nomatch h) fun h => nomatch h

theorem finish_ne_beyond {stop : Nat} {limit : Limit} :
    st.finish stop ≠ .error (.beyond limit) := by
  cases st <;> exact fun h => nomatch h

/-- **A text is read as a value exactly if its lexemes spell it.** -/
theorem read_eq_ok_iff :
    read room text = .ok v ↔ ¬ HasMark text ∧ Spells room 0 (lexemes text) v := by
  by_cases marked : HasMark text
  · rw [read_of_marked marked]
    exact iff_of_false (fun h => nomatch h) fun h => h.1 marked
  rw [read_of_unmarked marked, and_iff_right marked, Except.bind_eq_ok]
  constructor
  · rintro ⟨st, run, finished⟩
    obtain rfl := finish_eq_ok.1 finished
    have none : Means room [] (.value []) := Due.start
    exact none.run run
  · intro spells
    exact ⟨.done v, spells.followed _ [] rfl .value _ rfl, rfl⟩

theorem stateRead_eq_beyond_iff {t : Token} (honest : t.Honest) {limit : Limit} :
    State.read room stack t = .error (.beyond limit) ↔
      TooMuch room stack.length t.lexeme limit := by
  obtain ⟨start, l⟩ := t
  cases l with
  | opening c =>
    change State.enter room c stack = _ ↔ _
    rw [enter_eq]
    split
    · next deep =>
      constructor
      · rintro ⟨⟩
        exact .depth deep
      · rintro ⟨-⟩
        rfl
    · next fits =>
      refine iff_of_false (fun h => nomatch h) ?_
      rintro ⟨deep⟩
      exact fits deep
  | longInteger n =>
    constructor
    · rintro ⟨⟩
      exact .digits (honest n rfl)
    · rintro ⟨-⟩
      rfl
  | _ => exact iff_of_false (fun h => nomatch h) fun h => nomatch h

theorem readKey_ne_beyond {members : List (Words × Value)} {t : Token} {limit : Limit} :
    State.readKey members stack t ≠ .error (.beyond limit) := by
  obtain ⟨start, l⟩ := t
  cases l <;> exact fun h => nomatch h

/-- A step goes beyond a limit only where a value is due. -/
theorem step_eq_beyond_iff {t : Token} (honest : t.Honest) {limit : Limit} :
    st.step room t = .error (.beyond limit) ↔
      ∃ stack, Awaits st stack ∧ TooMuch room stack.length t.lexeme limit := by
  constructor
  · intro beyond
    cases st with
    | value stack => exact ⟨stack, .value, (stateRead_eq_beyond_iff honest).1 beyond⟩
    | firstItem stack =>
      refine ⟨_, .firstItem, (stateRead_eq_beyond_iff honest).1 ?_⟩
      rw [← beyond, Awaits.firstItem.step]
      intro closes
      obtain ⟨start, l⟩ := t
      obtain rfl : l = .closing .array := closes
      cases beyond
    | firstKey stack =>
      by_cases closes : t.lexeme = .closing .object
      · obtain ⟨start, l⟩ := t
        obtain rfl : l = .closing .object := closes
        cases beyond
      · rw [step_firstKey closes] at beyond
        exact absurd beyond readKey_ne_beyond
    | nextKey members stack => exact absurd beyond readKey_ne_beyond
    | colon members key stack =>
      obtain ⟨start, l⟩ := t
      cases l <;> cases beyond
    | afterItem items stack =>
      obtain ⟨start, l⟩ := t
      cases l with
      | closing c => cases c <;> cases beyond
      | _ => cases beyond
    | afterMember members stack =>
      obtain ⟨start, l⟩ := t
      cases l with
      | closing c => cases c <;> cases beyond
      | _ => cases beyond
    | done v => cases beyond
  · rintro ⟨stack, awaits, much⟩
    rw [awaits.step, (stateRead_eq_beyond_iff honest).2 much]
    intro closes
    rw [closes] at much
    cases much

/-- **The reader goes beyond a limit** exactly where a value is due and the lexeme there is too
much. -/
theorem read_eq_beyond_iff {limit : Limit} :
    read room text = .error (.beyond limit) ↔
      ¬ HasMark text ∧ ∃ front l back stack, lexemes text = front ++ l :: back ∧
        Due room front stack ∧ TooMuch room stack.length l limit := by
  by_cases marked : HasMark text
  · rw [read_of_marked marked]
    exact iff_of_false (fun h => nomatch h) fun h => h.1 marked
  rw [read_of_unmarked marked, and_iff_right marked, Except.bind_eq_error]
  constructor
  · rintro (failed | ⟨st, -, finished⟩)
    -- The state in front of the token that fails means that a value is due there.
    · obtain ⟨front, t, back, st, split, run, beyond⟩ := Except.foldlM_eq_error.1 failed
      have mem : t ∈ tokens text := split ▸ List.mem_append_right front List.mem_cons_self
      obtain ⟨stack, awaits, much⟩ :=
        (step_eq_beyond_iff (honest_of_mem_tokensFrom mem)).1 beyond
      have none : Means room [] (.value []) := Due.start
      refine ⟨front.map Token.lexeme, t.lexeme, back.map Token.lexeme, stack, ?_,
        awaits.due (none.run run), much⟩
      rw [lexemes, split, List.map_append, List.map_cons]
    · exact absurd finished finish_ne_beyond
  · rintro ⟨front, l, back, stack, split, due, much⟩
    obtain ⟨before, behind, here, rfl, later⟩ := List.map_eq_append_iff.1 split
    obtain ⟨t, after, rfl, rfl, -⟩ := List.map_eq_cons_iff.1 later
    -- Whatever the tokens in front are, their lexemes bring the reader to where a value is due.
    obtain ⟨st, runs, awaits⟩ := due.runs
    have mem : t ∈ tokens text := here ▸ List.mem_append_right before List.mem_cons_self
    exact .inl (Except.foldlM_eq_error.2 ⟨before, t, after, st, here, runs before rfl,
      (step_eq_beyond_iff (honest_of_mem_tokensFrom mem)).2 ⟨stack, awaits, much⟩⟩)

end Json
end Recital
