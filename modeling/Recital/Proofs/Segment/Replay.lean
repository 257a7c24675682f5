/-
# Events replayed on a stack

`Segment.checkBalanced` looks at the kinds of scopes only.  `Event.replay` is stricter: it
follows events on a stack of whole scopes and gives up where an event closes anything but
the innermost scope, value included, or opens a kind that is open already.

| event | before | after |
| --- | --- | --- |
| opening `s` | no scope of the kind of `s` | `s` on top |
| text | any stack | the same stack |
| closing `s` | `s` on top | the rest |

So a replay never has two scopes of a kind open (`nodup_of_replay`), and a segment whose
replay ends with nothing open is balanced (`checkBalanced_of_whole`).  `textsUnder` reads
the same events for what is said, each text with the scopes around it.
-/

import Recital.Segment.Balance
import Mathlib.Data.List.Nodup

namespace Recital

/-- The kinds of scopes, in their order. -/
def Scope.kinds (scopes : List Scope) : List Kind := scopes.map Scope.kind

@[simp] theorem Scope.kinds_nil : Scope.kinds [] = [] := rfl

theorem Scope.nodup_kinds_nil : (Scope.kinds []).Nodup := List.nodup_nil

@[simp] theorem Scope.kinds_cons (s : Scope) (scopes : List Scope) :
    Scope.kinds (s :: scopes) = s.kind :: Scope.kinds scopes := rfl

@[simp] theorem Scope.kinds_append (inside around : List Scope) :
    Scope.kinds (inside ++ around) = Scope.kinds inside ++ Scope.kinds around :=
  List.map_append

namespace Event

/-- The scopes that are open after an event, innermost first, if the event is in order
where `scopes` are open. -/
def follow? (scopes : List Scope) : Event → Option (List Scope)
  | .opening s => if s.kind ∈ Scope.kinds scopes then none else some (s :: scopes)
  | .text _ => some scopes
  | .closing s => if scopes.head? = some s then some scopes.tail else none

/-- The scopes that are open after events, if every one of them is in order. -/
def replay (scopes : List Scope) (events : List Event) : Option (List Scope) :=
  events.foldlM follow? scopes

/-- An opening is in order just where no scope of its kind is open. -/
theorem follow_opening_eq_some {scopes after : List Scope} {s : Scope} :
    follow? scopes (.opening s) = some after ↔
      s.kind ∉ Scope.kinds scopes ∧ after = s :: scopes := by
  rw [follow?]
  split <;> simp [*, eq_comm]

/-- A closing is in order just where its scope is the innermost one. -/
theorem follow_closing_eq_some {scopes after : List Scope} {s : Scope} :
    follow? scopes (.closing s) = some after ↔ scopes = s :: after := by
  rw [follow?]
  cases scopes with
  | nil => simp
  | cons top around =>
    rw [List.head?_cons, List.tail_cons]
    split <;> simp_all

theorem replay_cons (scopes : List Scope) (e : Event) (es : List Event) :
    replay scopes (e :: es) = (follow? scopes e).bind fun next => replay next es := rfl

theorem replay_append (scopes : List Scope) (es fs : List Event) :
    replay scopes (es ++ fs) = (replay scopes es).bind fun next => replay next fs :=
  List.foldlM_append

/-- Opening scopes puts them on the stack, the last one innermost. -/
theorem replay_openings {scopes around : List Scope}
    (once : (Scope.kinds (scopes.reverse ++ around)).Nodup) :
    replay around (scopes.map Event.opening) = some (scopes.reverse ++ around) := by
  induction scopes generalizing around with
  | nil => rfl
  | cons s scopes ih =>
    rw [List.reverse_cons, List.append_assoc, List.singleton_append] at once ⊢
    have fresh : s.kind ∉ Scope.kinds around := by
      rw [Scope.kinds_append, Scope.kinds_cons] at once
      exact (List.nodup_cons.1 once.of_append_right).1
    rw [List.map_cons, replay_cons, follow_opening_eq_some.2 ⟨fresh, rfl⟩, Option.bind_some]
    exact ih once

/-- Closing scopes innermost first takes them off the stack. -/
theorem replay_closings (inside around : List Scope) :
    replay (inside ++ around) (inside.map Event.closing) = some around := by
  induction inside with
  | nil => rfl
  | cons s inside ih =>
    rw [List.map_cons, replay_cons, List.cons_append, follow_closing_eq_some.2 rfl,
      Option.bind_some]
    exact ih

theorem nodup_of_follow {scopes after : List Scope} {e : Event}
    (once : (Scope.kinds scopes).Nodup) (h : follow? scopes e = some after) :
    (Scope.kinds after).Nodup := by
  cases e with
  | opening s =>
    obtain ⟨fresh, rfl⟩ := follow_opening_eq_some.1 h
    exact List.nodup_cons.2 ⟨fresh, once⟩
  | text words =>
    obtain rfl := Option.some.inj h
    exact once
  | closing s =>
    obtain rfl := follow_closing_eq_some.1 h
    exact (List.nodup_cons.1 once).2

/-- **A replay never has two scopes of a kind open.** -/
theorem nodup_of_replay {scopes after : List Scope} {es : List Event}
    (once : (Scope.kinds scopes).Nodup) (h : replay scopes es = some after) :
    (Scope.kinds after).Nodup := by
  induction es generalizing scopes with
  | nil =>
    obtain rfl := Option.some.inj h
    exact once
  | cons e es ih =>
    rw [replay_cons] at h
    obtain ⟨next, step, rest⟩ := Option.bind_eq_some_iff.1 h
    exact ih (nodup_of_follow once step) rest

/-- Whether an event opens or closes a scope rather than say something. -/
def IsMarkup (e : Event) : Prop := e.words? = none

theorem markup_map_opening (scopes : List Scope) :
    ∀ e ∈ scopes.map opening, e.IsMarkup := by
  simp [IsMarkup, words?]

theorem markup_map_closing (scopes : List Scope) :
    ∀ e ∈ scopes.map closing, e.IsMarkup := by
  simp [IsMarkup, words?]

/-- A segment has nothing to say if all of it is markup. -/
theorem not_hasText_iff {s : Segment} : ¬ s.hasText ↔ ∀ e ∈ s.events, e.IsMarkup := by
  simp [Segment.hasText, IsMarkup]

/-- The texts among events, each with the scopes that are open around it, innermost
first. -/
def textsUnder (scopes : List Scope) : List Event → List (Words × List Scope)
  | [] => []
  | .opening s :: es => textsUnder (s :: scopes) es
  | .text words :: es => (words, scopes) :: textsUnder scopes es
  | .closing _ :: es => textsUnder scopes.tail es

/-- Where the first part of events is in order, the second is read with the scopes that
the first leaves open. -/
theorem textsUnder_append {scopes after : List Scope} {es : List Event}
    (h : replay scopes es = some after) (fs : List Event) :
    textsUnder scopes (es ++ fs) = textsUnder scopes es ++ textsUnder after fs := by
  induction es generalizing scopes with
  | nil =>
    obtain rfl := Option.some.inj h
    rfl
  | cons e es ih =>
    rw [replay_cons] at h
    obtain ⟨next, step, rest⟩ := Option.bind_eq_some_iff.1 h
    cases e with
    | opening s =>
      obtain ⟨-, rfl⟩ := follow_opening_eq_some.1 step
      exact ih rest
    | text words =>
      obtain rfl := Option.some.inj step
      exact congrArg ((words, scopes) :: ·) (ih rest)
    | closing s =>
      obtain rfl := follow_closing_eq_some.1 step
      exact ih rest

/-- Markup says nothing. -/
theorem textsUnder_of_markup {es : List Event} (h : ∀ e ∈ es, e.IsMarkup) (scopes : List Scope) :
    textsUnder scopes es = [] := by
  induction es generalizing scopes with
  | nil => rfl
  | cons e es ih =>
    have rest : ∀ f ∈ es, f.IsMarkup := fun f mem => h f (List.mem_cons_of_mem _ mem)
    cases e with
    | opening s => exact ih rest _
    | text words => exact absurd (h _ List.mem_cons_self) (Option.some_ne_none words)
    | closing s => exact ih rest _

end Event

namespace Segment

/-- Whether every scope of a segment is closed by the event that mirrors its opening. -/
def Whole (s : Segment) : Prop := Event.replay [] s.events = some []

theorem checkEvents_of_replay {scopes : List Scope} {es : List Event}
    (h : Event.replay scopes es = some []) :
    checkEvents (Scope.kinds scopes) es = .ok () := by
  induction es generalizing scopes with
  | nil =>
    obtain rfl := Option.some.inj h
    rfl
  | cons e es ih =>
    rw [Event.replay_cons] at h
    obtain ⟨next, step, rest⟩ := Option.bind_eq_some_iff.1 h
    cases e with
    | opening s =>
      obtain ⟨fresh, rfl⟩ := Event.follow_opening_eq_some.1 step
      rw [checkEvents, if_neg (by simpa using fresh)]
      exact ih rest
    | text words =>
      obtain rfl := Option.some.inj step
      exact ih rest
    | closing s =>
      obtain rfl := Event.follow_closing_eq_some.1 step
      rw [Scope.kinds_cons, checkEvents, if_pos rfl]
      exact ih rest

/-- **A segment whose scopes are closed by what mirrors them is balanced.** -/
theorem checkBalanced_of_whole {s : Segment} (h : s.Whole) : s.checkBalanced = .ok () :=
  checkEvents_of_replay h

/-- The converse fails: the check does not compare what scopes set. -/
example : ({ events := [.opening (.voice none), .closing (.voice (some ⟨"a", ""⟩))] } :
    Segment).checkBalanced = .ok () ∧
      Event.replay [] [.opening (.voice none), .closing (.voice (some ⟨"a", ""⟩))] = none := by
  decide

end Segment
end Recital
