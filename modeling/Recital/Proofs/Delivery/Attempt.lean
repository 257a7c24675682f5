/-
# Attempts at runs

The engine is asked for one run after the other, and for each run up to three times.  How a
run went is told by its attempts alone:

| | attempts | the last one | those before |
| --- | ---: | --- | --- |
| `Said` | 1 to 3 | ended well | did not |
| `GivenUp` | 3 | did not | did not |

An attempt ends well if it raises nothing and there is a recording with something in it after
it.  The recording is what all attempts at the run have made of it, so one that writes nothing
may end well after one that wrote and failed; the next run starts without a recording.  What
is heard of a run is what the decoder makes of its recording, if it can.

`Voiced` goes through runs in their order, with a turn for each run: it goes on only behind a
run that was said and could be decoded, and stops at the first other one.  `Booth.Made` says of
two states of a booth which attempts lie between them, each with what the engine answered.
-/

import Recital.Run
import Recital.Speech
import Mathlib.Data.List.Infix

namespace Recital
namespace Attempt

/-- Whether an attempt raises a fault. -/
def raises (a : Attempt) : Bool := a.raised.isSome

/-- The recording that attempts at a run leave. -/
def left (attempts : List Attempt) : Recording :=
  attempts.foldl (fun before a => a.record before) .missing

/-- Whether the last of the attempts at a run ended well: it raised nothing, and what is
recorded is not empty. -/
def EndedWell (attempts : List Attempt) : Prop :=
  ∃ last ∈ attempts.getLast?, last.raises = false ∧ (left attempts).bytes ≠ []

theorem left_concat (attempts : List Attempt) (a : Attempt) :
    left (attempts ++ [a]) = a.record (left attempts) := by
  simp [left]

/-- No attempt puts a folder where there was none. -/
theorem left_ne_folder (attempts : List Attempt) (path : String) :
    left attempts ≠ .folder path := by
  induction attempts using List.reverseRecOn with
  | nil => exact fun same => Recording.noConfusion same
  | append_singleton attempts a ih =>
    rw [left_concat]
    generalize left attempts = before at ih ⊢
    intro same
    cases before with
    | folder other => exact ih same
    | _ => cases written : a.written <;> simp [record, written] at same

theorem endedWell_concat {attempts : List Attempt} {a : Attempt} :
    EndedWell (attempts ++ [a]) ↔ a.raises = false ∧ (left (attempts ++ [a])).bytes ≠ [] := by
  simp [EndedWell]

theorem fault?_eq_none_iff (attempts : List Attempt) (a : Attempt) (text : Words) :
    a.fault? text (left (attempts ++ [a])) = none ↔ EndedWell (attempts ++ [a]) := by
  rw [endedWell_concat]
  have noFolder := left_ne_folder (attempts ++ [a])
  generalize left (attempts ++ [a]) = after at noFolder ⊢
  cases after with
  | folder path => exact absurd rfl (noFolder path)
  | _ => cases raised : a.raised <;> simp [fault?, raises, raised]

/-- **The test that an attempt is put to** is whether it ended well. -/
theorem verdict (attempts : List Attempt) (a : Attempt) (text : Words) :
    (a.fault? text (a.record (left attempts)) = none ∧ EndedWell (attempts ++ [a])) ∨
      ∃ fault, a.fault? text (a.record (left attempts)) = some fault ∧
        ¬ EndedWell (attempts ++ [a]) := by
  rw [← left_concat, ← fault?_eq_none_iff attempts a text]
  cases a.fault? text (left (attempts ++ [a])) with
  | none => exact .inl ⟨rfl, rfl⟩
  | some fault => exact .inr ⟨fault, rfl, by simp⟩

end Attempt

open Attempt (EndedWell)

/-- Whether these are the attempts at a run that was said. -/
structure Said (attempts : List Attempt) : Prop where
  count : 1 ≤ attempts.length ∧ attempts.length ≤ Booth.attemptLimit
  ended : EndedWell attempts
  before : ∀ earlier, earlier <+: attempts → earlier ≠ attempts → ¬ EndedWell earlier

/-- Whether these are the attempts at a run that was given up because of the fault of the
last one. -/
structure GivenUp (text : Words) (attempts : List Attempt) (fault : SpeechFault) : Prop where
  count : attempts.length = Booth.attemptLimit
  failed : ∀ earlier, earlier <+: attempts → ¬ EndedWell earlier
  reason : ∃ last ∈ attempts.getLast?, last.fault? text (Attempt.left attempts) = some fault

namespace Booth

/-- Whether a booth is left by these attempts, each at its call and with what becomes of it by
the number of attempts before it. -/
structure Made (b after : Booth) (tries : List (Call × Attempt)) : Prop where
  engine : after.engine = b.engine
  calls : after.calls = b.calls ++ tries.map Prod.fst
  answers : ∀ k call a, tries[k]? = some (call, a) →
    a = b.engine.attempt (b.calls.length + k) call

variable {b c d : Booth}

theorem Made.refl (b : Booth) : b.Made b [] :=
  ⟨rfl, by simp, fun _ _ _ there => by simp at there⟩

/-- Notices and waits make no difference. -/
theorem Made.of_eq {tries : List (Call × Attempt)} (h : b.Made c tries)
    (engine : d.engine = c.engine) (calls : d.calls = c.calls) : b.Made d tries :=
  ⟨engine.trans h.engine, calls.trans h.calls, h.answers⟩

theorem Made.trans {first second : List (Call × Attempt)} (h : b.Made c first)
    (h' : c.Made d second) : b.Made d (first ++ second) where
  engine := h'.engine.trans h.engine
  calls := by rw [h'.calls, h.calls, List.map_append, List.append_assoc]
  answers := by
    intro k call a there
    by_cases inFirst : k < first.length
    · rw [List.getElem?_append_left inFirst] at there
      exact h.answers k call a there
    · -- behind the first attempts the second ones are counted from there
      rw [List.getElem?_append_right (by omega)] at there
      have answer := h'.answers _ call a there
      rw [h.engine, h.calls, List.length_append, List.length_map] at answer
      have position : b.calls.length + first.length + (k - first.length) = b.calls.length + k := by
        omega
      rwa [position] at answer

/-- **One attempt** is made at its call, and the engine answers it. -/
theorem made_attempt (b : Booth) (call : Call) :
    b.Made (b.attempt call).2 [(call, (b.attempt call).1)] where
  engine := rfl
  calls := rfl
  answers := by
    intro k other a there
    cases k with
    | zero =>
      cases there
      rfl
    | succ k => cases there

/-- An attempt that ends well after failed ones is the last. -/
theorem said_concat {earlier : List Attempt} {a : Attempt} (count : earlier.length < attemptLimit)
    (failed : ∀ few, few <+: earlier → ¬ EndedWell few) (ended : EndedWell (earlier ++ [a])) :
    Said (earlier ++ [a]) where
  count := by
    rw [List.length_append, List.length_singleton]
    omega
  ended := ended
  before := by
    intro few start proper
    rcases List.prefix_concat_iff.1 start with same | start
    · exact absurd same proper
    · exact failed few start

theorem failed_concat {earlier : List Attempt} {a : Attempt}
    (failed : ∀ few, few <+: earlier → ¬ EndedWell few) (again : ¬ EndedWell (earlier ++ [a])) :
    ∀ few, few <+: earlier ++ [a] → ¬ EndedWell few := by
  intro few start
  rcases List.prefix_concat_iff.1 start with rfl | start
  · exact again
  · exact failed few start

/-- How attempts at a call end that follow earlier ones, which all failed.  The induction is
on the number of retries that are left. -/
theorem speakFrom_spec (call : Call) (retries : Nat) (earlier : List Attempt) (b : Booth)
    (count : earlier.length + retries + 1 = attemptLimit)
    (failed : ∀ few, few <+: earlier → ¬ EndedWell few) :
    ∃ later after, b.Made after (later.map fun a => (call, a)) ∧
      ((speakFrom call (earlier.length + 1) (Attempt.left earlier) b retries =
          (.ok (Attempt.left (earlier ++ later)), after) ∧
          Said (earlier ++ later)) ∨
        ∃ fault, speakFrom call (earlier.length + 1) (Attempt.left earlier) b retries =
            (.error fault, after) ∧ GivenUp call.text (earlier ++ later) fault) := by
  induction retries generalizing earlier b with
  | zero =>
    have made := b.made_attempt call
    rcases attempted : b.attempt call with ⟨a, next⟩
    rw [attempted] at made
    rw [speakFrom, attempted]
    dsimp only
    rcases Attempt.verdict earlier a call.text with ⟨none, ended⟩ | ⟨fault, some, again⟩
    · rw [none]
      exact ⟨[a], next, made, .inl ⟨by rw [Attempt.left_concat],
        said_concat (by omega) failed ended⟩⟩
    · rw [some]
      refine ⟨[a], next.note (.attemptFailed (earlier.length + 1) attemptLimit fault.reason),
        made.of_eq rfl rfl, .inr ⟨fault, rfl, ?_, failed_concat failed again, ?_⟩⟩
      · rw [List.length_append, List.length_singleton]
        omega
      · exact ⟨a, by simp, Attempt.left_concat earlier a ▸ some⟩
  | succ retries ih =>
    have made := b.made_attempt call
    rcases attempted : b.attempt call with ⟨a, next⟩
    rw [attempted] at made
    rw [speakFrom, attempted]
    dsimp only
    rcases Attempt.verdict earlier a call.text with ⟨none, ended⟩ | ⟨fault, some, again⟩
    · rw [none]
      exact ⟨[a], next, made, .inl ⟨by rw [Attempt.left_concat],
        said_concat (by omega) failed ended⟩⟩
    · rw [some]
      have length : (earlier ++ [a]).length = earlier.length + 1 := by simp
      have noted := made.of_eq
        (d := { next.note (.attemptFailed (earlier.length + 1) attemptLimit fault.reason) with
          sleeps := next.sleeps ++ [delay (earlier.length + 1)] }) rfl rfl
      obtain ⟨later, after, more, ending⟩ :=
        ih (earlier ++ [a]) _ (by omega) (failed_concat failed again)
      rw [length, List.append_assoc, List.singleton_append, Attempt.left_concat] at ending
      exact ⟨a :: later, after, noted.trans more, ending⟩

/-- **How a call ends:** it is said, or it is given up. -/
theorem speak_spec (b : Booth) (call : Call) :
    ∃ attempts after, b.Made after (attempts.map fun a => (call, a)) ∧
      ((b.speak call .missing = (.ok (Attempt.left attempts), after) ∧ Said attempts) ∨
        ∃ fault, b.speak call .missing = (.error fault, after) ∧
          GivenUp call.text attempts fault) :=
  speakFrom_spec call (attemptLimit - 1) [] b rfl (by simp [EndedWell])

end Booth

/-- Whether a run is asked for by a call: with its text, its voice or else the one for text
that asks for none, and the prosody of its style. -/
structure Run.Asks (voice : String) (r : Run) (call : Call) : Prop where
  text : call.text = r.text
  voice : call.voice = (r.voice.map Voice.id).getD voice
  prosody : r.style.prosody = .ok call.prosody

/-- What is asked for a run, and what becomes of it. -/
structure Turn where
  call : Call
  attempts : List Attempt

/-- The attempts of a turn, each at its call. -/
def Turn.tries (t : Turn) : List (Call × Attempt) := t.attempts.map fun a => (t.call, a)

/-- What the engine is asked in a turn, once for each attempt. -/
def Turn.calls (t : Turn) : List Call := List.replicate t.attempts.length t.call

theorem Turn.map_fst_tries (turns : List Turn) :
    (turns.flatMap Turn.tries).map Prod.fst = turns.flatMap Turn.calls := by
  rw [List.map_flatMap]
  refine List.flatMap_congr fun t _ => ?_
  rw [tries, calls, List.map_map, List.eq_replicate_iff]
  simp

/-- Whether turns are those of runs in their order, one for each, where this is heard of them,
up to a run that ends in a failure, if there is one. -/
inductive Voiced (engine : Engine) (voice : String) :
    List Run → List Turn → List Audio → Option Error → Prop where
  | done : Voiced engine voice [] [] [] none
  | said {r : Run} {runs : List Run} {t : Turn} {turns : List Turn} {a : Audio}
      {heard : List Audio} {error? : Option Error} (asked : r.Asks voice t.call)
      (ended : Said t.attempts)
      (decoded : engine.decode (Attempt.left t.attempts).bytes = .ok a)
      (rest : Voiced engine voice runs turns heard error?) :
      Voiced engine voice (r :: runs) (t :: turns) (a :: heard) error?
  | givenUp {r : Run} {runs : List Run} {t : Turn} {fault : SpeechFault}
      (asked : r.Asks voice t.call) (failed : GivenUp t.call.text t.attempts fault) :
      Voiced engine voice (r :: runs) [t] [] (some (.speech fault))
  | garbled {r : Run} {runs : List Run} {t : Turn} {reason : String}
      (asked : r.Asks voice t.call) (ended : Said t.attempts)
      (undecoded : engine.decode (Attempt.left t.attempts).bytes = .error reason) :
      Voiced engine voice (r :: runs) [t] [] (some (.decoding reason))

namespace Voiced

variable {engine : Engine} {voice : String} {runs : List Run} {turns : List Turn}
  {heard : List Audio}

/-- If no run ends in a failure, one recording is heard for each. -/
theorem length_heard (h : Voiced engine voice runs turns heard none) :
    heard.length = runs.length := by
  generalize none? : (none : Option Error) = ended at h
  induction h with
  | done => rfl
  | said _ _ _ _ ih => exact congrArg (· + 1) (ih none?)
  | givenUp | garbled => cases none?

/-- What is heard was decoded. -/
theorem decoded {error? : Option Error} (h : Voiced engine voice runs turns heard error?) :
    ∀ a ∈ heard, ∃ bytes, engine.decode bytes = .ok a := by
  induction h with
  | done | givenUp | garbled => simp
  | said _ _ decoded _ ih => exact List.forall_mem_cons.2 ⟨⟨_, decoded⟩, ih⟩

/-- A run ends in a failure of the engine or of its decoder. -/
theorem speech_or_decoding {error : Error}
    (h : Voiced engine voice runs turns heard (some error)) :
    (∃ fault, error = .speech fault) ∨ ∃ reason, error = .decoding reason := by
  generalize some? : some error = ended at h
  induction h with
  | done => cases some?
  | said _ _ _ _ ih => exact ih some?
  | givenUp => exact .inl ⟨_, Option.some.inj some?⟩
  | garbled => exact .inr ⟨_, Option.some.inj some?⟩

end Voiced
end Recital
