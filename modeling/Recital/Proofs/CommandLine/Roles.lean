/-
# What promotion makes of each word

Every word of a command line has a role, which depends on all words in front of it, and the role
says what promotion makes of the word:

| role | which word | becomes |
| --- | --- | --- |
| `flag` | a spelling of an option with a value, not a value, not behind the marker | nothing |
| `value` | the word behind one in the role `flag` | the option, `=`, and the word |
| `marker` | the first `--` that is no value | nothing |
| `literal` | a word behind the marker | a text |
| `dashed` | another word with a dash in front | itself |
| `bare` | any other word | a text |

So no word is lost, doubled or moved.  An option at the end, which has no word behind it, stays
there in its long spelling.  What comes out is in a form that promotion leaves as it is
(`Promoted.promote_eq`): all words are dashed, the marker is not among them, and an option whose
value is not attached can only be the last of them.  A word such as `-tx` spells no option; it
is dashed.
-/

import Mathlib.Data.List.Induction
import Recital.Proofs.CommandLine.Spelling

namespace Recital
namespace CommandLine

/-! ### The form of promoted words -/

/-- Whether a word is dashed, and neither the marker nor an option whose value is to come. -/
structure Kept (word : String) : Prop where
  dash : word.toList.head? = some '-'
  noMarker : word ≠ "--"
  noValue : valueFlag? word = none

/-- Words as promotion leaves them: words that it keeps, and at the end perhaps an option whose
value is missing. -/
inductive Promoted : List String → Prop where
  | nil : Promoted []
  | missing (f : Flag) (takes : f.takesValue = true) : Promoted [f.long]
  | cons {word : String} {words : List String} (kept : Kept word) (rest : Promoted words) :
      Promoted (word :: words)

theorem kept_attach (f : Flag) (value : String) : Kept (attach f value) := by
  obtain ⟨c, cs, dashed, noMarker, noSpelling⟩ := Flag.attached_shape f.long_mem_spellings value
  refine ⟨by rw [attach, dashed]; rfl, noMarker, ?_⟩
  rw [attach, valueFlag?, noSpelling]
  rfl

namespace Promoted

variable {words : List String}

/-- **Promoted words are promoted to themselves.** -/
theorem promote_eq (h : Promoted words) : promote words = words := by
  induction h with
  | nil => rfl
  | missing f takes => exact promoteFrom_value_missing f.long_mem_spellings takes
  | cons kept _ ih =>
    rw [promote] at ih ⊢
    rw [promoteFrom_dashed kept.dash kept.noMarker kept.noValue, ih]

theorem dashed (h : Promoted words) :
    ∀ word ∈ words, word.toList.head? = some '-' ∧ word ≠ "--" := by
  induction h with
  | nil => exact List.forall_mem_nil _
  | missing f takes =>
    obtain ⟨c, cs, shape, -, noMarker⟩ := Flag.spelling_shape f.long_mem_spellings
    exact List.forall_mem_singleton.2 ⟨by rw [shape]; rfl, noMarker⟩
  | cons kept _ ih => exact List.forall_mem_cons.2 ⟨⟨kept.dash, kept.noMarker⟩, ih⟩

/-- An option that waits for its value is the last word. -/
theorem waiting_last (h : Promoted words) {front back : List String} {word : String}
    (split : words = front ++ word :: back) (waits : valueFlag? word ≠ none) : back = [] := by
  induction h generalizing front with
  | nil => simp at split
  | missing f takes =>
    cases front with
    | nil => exact (List.cons.inj split).2.symm
    | cons w front => simp at split
  | cons kept _ ih =>
    cases front with
    | nil =>
      rw [← (List.cons.inj split).1] at waits
      exact absurd kept.noValue waits
    | cons w front => exact ih (List.cons.inj split).2

theorem append {kept : List String} (each : ∀ word ∈ kept, Kept word) (h : Promoted words) :
    Promoted (kept ++ words) := by
  induction kept with
  | nil => exact h
  | cons word kept ih =>
    obtain ⟨here, later⟩ := List.forall_mem_cons.1 each
    exact .cons here (ih later)

end Promoted

/-! ### Roles -/

/-- What a word of a command line is there for. -/
inductive Role where
  | flag (flag : Flag)
  | value (flag : Flag)
  | marker
  | literal
  | dashed
  | bare
  deriving DecidableEq

/-- The option that waits for its value behind words in such roles. -/
def waiting? (before : List Role) : Option Flag :=
  match before.getLast? with
  | some (.flag f) => some f
  | _ => none

/-- The role of a word, from the roles of all words in front of it. -/
def Role.behind (before : List Role) (word : String) : Role :=
  if .marker ∈ before then .literal
  else match waiting? before with
    | some f => .value f
    | none =>
      if word = "--" then .marker
      else match valueFlag? word with
        | some f => .flag f
        | none => if word.toList.head? = some '-' then .dashed else .bare

/-- What a word in a role becomes. -/
def Role.promoted? (word : String) : Role → Option String
  | .flag _ | .marker => none
  | .value f => some (attach f word)
  | .literal | .bare => some (attach .text word)
  | .dashed => some word

/-- The words of a command line with their roles. -/
def withRoles (words : List String) : List (Role × String) :=
  words.foldl (fun before word => before ++ [(.behind (before.map Prod.fst) word, word)]) []

/-- The roles of the words of a command line. -/
def roles (words : List String) : List Role := (withRoles words).map Prod.fst

variable {front back words : List String} {before : List Role} {word : String} {f : Flag}

theorem withRoles_concat (words : List String) (word : String) :
    withRoles (words ++ [word]) =
      withRoles words ++ [(.behind (roles words) word, word)] := by
  rw [withRoles, List.foldl_append]
  rfl

theorem roles_concat (words : List String) (word : String) :
    roles (words ++ [word]) = roles words ++ [.behind (roles words) word] := by
  rw [roles, withRoles_concat, List.map_append]
  rfl

/-- Each word has one role, in order. -/
theorem map_snd_withRoles (words : List String) : (withRoles words).map Prod.snd = words := by
  induction words using List.reverseRecOn with
  | nil => rfl
  | append_singleton words word ih => rw [withRoles_concat, List.map_append, ih]; rfl

theorem waiting?_concat (before : List Role) (role : Role) :
    waiting? (before ++ [role]) = match role with
      | .flag f => some f
      | _ => none := by
  rw [waiting?, List.getLast?_concat]
  cases role <;> rfl

/-- When a word has a role. -/
inductive Role.Fits (before : List Role) (word : String) : Role → Prop where
  | literal (behind : .marker ∈ before) : Fits before word .literal
  | value {f : Flag} (clear : .marker ∉ before) (waits : waiting? before = some f) :
      Fits before word (.value f)
  | marker (clear : .marker ∉ before) (free : waiting? before = none) (same : word = "--") :
      Fits before word .marker
  | flag {f : Flag} (clear : .marker ∉ before) (free : waiting? before = none)
      (spells : word ∈ f.spellings) (takes : f.takesValue = true) : Fits before word (.flag f)
  | dashed (clear : .marker ∉ before) (free : waiting? before = none) (kept : Kept word) :
      Fits before word .dashed
  | bare (clear : .marker ∉ before) (free : waiting? before = none)
      (noDash : word.toList.head? ≠ some '-') : Fits before word .bare

/-- **The role of a word fits.** -/
theorem Role.fits_behind (before : List Role) (word : String) :
    Role.Fits before word (.behind before word) := by
  unfold Role.behind
  split
  · next behind => exact .literal behind
  · next clear =>
    split
    · next waits => exact .value clear waits
    · next free =>
      split
      · next same => exact .marker clear free same
      · next noMarker =>
        split
        · next found =>
          obtain ⟨spells, takes⟩ := valueFlag?_eq_some.1 found
          exact .flag clear free spells takes
        · next noValue =>
          split
          · next dash => exact .dashed clear free ⟨dash, noMarker, noValue⟩
          · next noDash => exact .bare clear free noDash

/-- A word has the role that fits, and no other. -/
theorem Role.Fits.eq_behind {role : Role} (h : role.Fits before word) :
    role = .behind before word := by
  unfold Role.behind
  cases h with
  | literal behind => rw [if_pos behind]
  | value clear waits => rw [if_neg clear, waits]
  | marker clear free same => rw [if_neg clear, free]; exact (if_pos same).symm
  | flag clear free spells takes =>
    obtain ⟨_, _, _, _, noMarker⟩ := Flag.spelling_shape spells
    rw [if_neg clear, free]
    dsimp only
    rw [if_neg noMarker, valueFlag?_eq_some.2 ⟨spells, takes⟩]
  | dashed clear free kept =>
    rw [if_neg clear, free]
    dsimp only
    rw [if_neg kept.noMarker, kept.noValue]
    exact (if_pos kept.dash).symm
  | bare clear free noDash =>
    rw [if_neg clear, free]
    dsimp only
    rw [if_neg (ne_marker_of_bare noDash), valueFlag?_of_bare noDash]
    exact (if_neg noDash).symm

/-- Where a word stands, its role is the one that fits behind the words in front. -/
theorem fits_iff_of_withRoles {front back : List (Role × String)} {role other : Role}
    (split : withRoles words = front ++ (role, word) :: back) :
    other.Fits (front.map Prod.fst) word ↔ other = role := by
  suffices role = .behind (front.map Prod.fst) word by
    rw [this]
    exact ⟨Role.Fits.eq_behind, fun same => same ▸ Role.fits_behind _ word⟩
  induction words using List.reverseRecOn generalizing back with
  | nil => simp [withRoles] at split
  | append_singleton words last ih =>
    rw [withRoles_concat] at split
    rcases List.eq_nil_or_concat back with rfl | ⟨back, w, rfl⟩
    · obtain ⟨same, here⟩ := List.append_inj' split rfl
      obtain ⟨rfl, rfl⟩ := Prod.mk.inj (List.singleton_inj.1 here)
      rw [roles, same]
    · rw [List.concat_eq_append, ← List.cons_append, ← List.append_assoc] at split
      exact ih (List.append_inj' split rfl).1

/-- Behind the marker no option waits. -/
theorem waiting?_of_marker (h : .marker ∈ roles words) : waiting? (roles words) = none := by
  induction words using List.reverseRecOn with
  | nil => cases h
  | append_singleton words word ih =>
    rw [roles_concat] at h ⊢
    rw [waiting?_concat]
    rcases List.mem_append.1 h with behind | here
    · rw [Role.behind, if_pos behind]
    · rw [← List.mem_singleton.1 here]

/-- An option that waits takes a value. -/
theorem takesValue_of_waiting? (h : waiting? (roles words) = some f) : f.takesValue = true := by
  induction words using List.reverseRecOn with
  | nil => cases h
  | append_singleton words word _ =>
    rw [roles_concat, waiting?_concat] at h
    cases role : Role.behind (roles words) word with
    | flag g =>
      have fits := Role.fits_behind (roles words) word
      rw [role] at h fits
      cases h
      cases fits with
      | flag _ _ _ takes => exact takes
    | _ => rw [role] at h; cases h

/-! ### Words by their roles -/

/-- What promotion makes of words that stand behind words in such roles. -/
def promoteBehind (before : List Role) (words : List String) : List String :=
  if .marker ∈ before then words.map (attach .text) else promoteFrom (waiting? before) words

/-- One word more: what it becomes, and then the words behind it. -/
theorem promoteBehind_cons (before : List Role) (word : String) (words : List String) :
    promoteBehind before (word :: words) =
      ((Role.behind before word).promoted? word).toList ++
        promoteBehind (before ++ [.behind before word]) words := by
  -- Words go on to be promoted, with the option that waits for them, unless this is the marker.
  have later (role : Role) (other : role ≠ .marker) (clear : .marker ∉ before) :
      promoteBehind (before ++ [role]) words =
        promoteFrom (waiting? (before ++ [role])) words := by
    rw [promoteBehind, if_neg]
    simp [clear, Ne.symm other]
  have fits := Role.fits_behind before word
  generalize Role.behind before word = role at fits ⊢
  cases fits with
  | literal behind =>
    have still : Role.marker ∈ before ++ [.literal] := List.mem_append_left _ behind
    rw [promoteBehind, if_pos behind, promoteBehind, if_pos still]
    rfl
  | value clear waits =>
    rw [promoteBehind, if_neg clear, waits, later _ (by simp) clear, waiting?_concat]
    rfl
  | marker clear free same =>
    rw [promoteBehind, if_neg clear, free, same, promoteFrom_marker, promoteBehind,
      if_pos (by simp)]
    rfl
  | @flag f clear free spells takes =>
    obtain ⟨_, _, _, _, noMarker⟩ := Flag.spelling_shape spells
    rw [promoteBehind, if_neg clear, free, promoteFrom, if_neg noMarker,
      valueFlag?_eq_some.2 ⟨spells, takes⟩, later _ (by simp) clear, waiting?_concat]
    rfl
  | dashed clear free kept =>
    rw [promoteBehind, if_neg clear, free,
      promoteFrom_dashed kept.dash kept.noMarker kept.noValue, later _ (by simp) clear,
      waiting?_concat]
    rfl
  | bare clear free noDash =>
    rw [promoteBehind, if_neg clear, free, promoteFrom_bare noDash, later _ (by simp) clear,
      waiting?_concat]
    rfl

/-- Words in front become what their roles say, whatever words follow. -/
theorem promote_append (front back : List String) :
    promote (front ++ back) =
      (withRoles front).filterMap (fun w => w.1.promoted? w.2) ++
        promoteBehind (roles front) back := by
  induction front using List.reverseRecOn generalizing back with
  | nil => rfl
  | append_singleton front word ih =>
    have here (w : Role × String) : [w].filterMap (fun w => w.1.promoted? w.2) =
        (w.1.promoted? w.2).toList := by
      rw [List.filterMap_cons]
      cases w.1.promoted? w.2 <;> rfl
    rw [List.append_assoc, List.singleton_append, ih, promoteBehind_cons, withRoles_concat,
      roles_concat, List.filterMap_append, List.append_assoc, here]

/-- What a command line is promoted to, word by word. -/
theorem promote_eq_filterMap (words : List String) :
    promote words = (withRoles words).filterMap (fun w => w.1.promoted? w.2) ++
      (waiting? (roles words)).toList.map Flag.long := by
  have whole := promote_append words []
  rw [List.append_nil] at whole
  rw [whole, promoteBehind]
  split
  · next marker => rw [waiting?_of_marker marker]; rfl
  · rfl

/-- Whatever its role, a word becomes one that is kept. -/
theorem Role.Fits.kept {role : Role} {w : String} (h : role.Fits before word)
    (becomes : role.promoted? word = some w) : Kept w := by
  cases h with
  | literal => cases becomes; exact kept_attach .text word
  | @value f => cases becomes; exact kept_attach f word
  | marker => cases becomes
  | flag => cases becomes
  | dashed _ _ kept => cases becomes; exact kept
  | bare => cases becomes; exact kept_attach .text word

theorem kept_of_mem_filterMap (words : List String) :
    ∀ w ∈ (withRoles words).filterMap (fun w => w.1.promoted? w.2), Kept w := by
  induction words using List.reverseRecOn with
  | nil => exact List.forall_mem_nil _
  | append_singleton words word ih =>
    rw [withRoles_concat, List.filterMap_append, List.forall_mem_append]
    refine ⟨ih, fun w mem => ?_⟩
    obtain ⟨_, here, becomes⟩ := List.mem_filterMap.1 mem
    obtain rfl := List.mem_singleton.1 here
    exact (Role.fits_behind (roles words) word).kept becomes

/-- **What comes out of promotion is promoted.** -/
theorem promoted_promote (words : List String) : Promoted (promote words) := by
  rw [promote_eq_filterMap]
  refine .append (kept_of_mem_filterMap words) ?_
  cases waits : waiting? (roles words) with
  | none => exact .nil
  | some f => exact .missing f (takesValue_of_waiting? waits)

theorem attach_injective (f : Flag) : Function.Injective (attach f) := by
  intro word word' same
  have chars : (f.long ++ "=").toList ++ word.toList = (f.long ++ "=").toList ++ word'.toList := by
    rw [← String.toList_append, ← String.toList_append]
    exact congrArg String.toList same
  exact String.toList_inj.1 (List.append_cancel_left chars)

/-- Only an option and the marker become nothing. -/
theorem Role.promoted?_eq_none {role : Role} :
    role.promoted? word = none ↔ role = .marker ∨ ∃ f, role = .flag f := by
  cases role <;> simp [Role.promoted?]

/-- A word can be told from what it becomes in its role. -/
theorem Role.promoted?_injective {role : Role} {w word' : String}
    (h : role.promoted? word = some w) (h' : role.promoted? word' = some w) : word = word' := by
  cases role with
  | flag | marker => cases h
  | dashed => exact Option.some.inj (h.trans h'.symm)
  | value | literal | bare => exact attach_injective _ (Option.some.inj (h.trans h'.symm))

/-- **Promotion loses nothing, and is done once.**  Promoted words are promoted to themselves.
They have a dash in front and are not the marker, and an option whose value is not attached is
the last of them.  Each word of a command line has one role, in order, the only one that fits
behind the roles of the words in front of it.  What comes out is, in the same order, what the
words become in their roles, and at the end an option that still waits.  Only an option and the
marker become nothing; any other word can be told from the one word that it becomes. -/
theorem promote_by_roles (words : List String) :
    promote (promote words) = promote words ∧
    (∀ word ∈ promote words, word.toList.head? = some '-' ∧ word ≠ "--") ∧
    (∀ front word back, promote words = front ++ word :: back → valueFlag? word ≠ none →
      back = []) ∧
    (withRoles words).map Prod.snd = words ∧
    (∀ front role word back, withRoles words = front ++ (role, word) :: back →
      ∀ other : Role, other.Fits (front.map Prod.fst) word ↔ other = role) ∧
    promote words = (withRoles words).filterMap (fun w => w.1.promoted? w.2) ++
      (waiting? (roles words)).toList.map Flag.long ∧
    ∀ (role : Role) (word : String),
      (role.promoted? word = none ↔ role = .marker ∨ ∃ f, role = .flag f) ∧
      ∀ w word', role.promoted? word = some w → role.promoted? word' = some w →
        word = word' := by
  have promoted := promoted_promote words
  exact ⟨promoted.promote_eq, promoted.dashed, fun _ _ _ => promoted.waiting_last,
    map_snd_withRoles words, fun _ _ _ _ split _ => fits_iff_of_withRoles split,
    promote_eq_filterMap words,
    fun _ _ => ⟨Role.promoted?_eq_none, fun _ _ => Role.promoted?_injective⟩⟩

/-- An option that takes the marker as its value, and one at the end that still waits. -/
theorem promote_by_roles_still_waiting :
    let words := ["hi", "-t", "--", "-x", "-o"]
    let promoted := ["--text=hi", "--text=--", "-x", "--output"]
    promote words = promoted ∧ promote promoted = promoted ∧
      ("--text=--" ∈ promoted ∧ "--text=--" ≠ "--") ∧
      (valueFlag? "--output" ≠ none ∧
        ∀ back, promoted = ["--text=hi", "--text=--", "-x"] ++ "--output" :: back → back = []) ∧
      withRoles words = [(.bare, "hi"), (.flag .text, "-t")] ++
        (.value .text, "--") :: [(.dashed, "-x"), (.flag .output, "-o")] ∧
      (Role.value .text).Fits [.bare, .flag .text] "--" ∧
      (Role.value .text).promoted? "--" = some "--text=--" ∧
      ∀ word, (Role.value .text).promoted? word = some "--text=--" → "--" = word := by
  intro words promoted
  have becomes : promote words = promoted := by decide +kernel
  have places : withRoles words = [(.bare, "hi"), (.flag .text, "-t")] ++
      (.value .text, "--") :: [(.dashed, "-x"), (.flag .output, "-o")] := by decide +kernel
  have waits : valueFlag? "--output" ≠ none := by decide +kernel
  have mem : "--text=--" ∈ promoted := by decide
  have value : (Role.value .text).promoted? "--" = some "--text=--" := by decide
  obtain ⟨again, dashed, last, -, fits, -, tell⟩ := promote_by_roles words
  rw [becomes] at again dashed last
  exact ⟨becomes, again, ⟨mem, (dashed _ mem).2⟩,
    ⟨waits, fun back split => last _ _ back split waits⟩, places,
    (fits _ _ _ _ places _).2 rfl, value, fun word => (tell _ "--").2 _ word value⟩

/-- A marker that is a value, one that is not, and an option behind it. -/
example : promote ["-t", "--", "-x", "--", "--rate"] = ["--text=--", "-x", "--text=--rate"] ∧
    roles ["-t", "--", "-x", "--", "--rate"] =
      [.flag .text, .value .text, .dashed, .marker, .literal] := by
  decide +kernel

end CommandLine
end Recital
