/-
# What a delivery does

A delivery goes through its prompts in their order.  It says the runs of a prompt, hands the
audio of the prompt on once all of them are heard, and stops at the first prompt of which a run
is given up, or cannot be decoded, or whose runs have no audio together.  `Delivered` tells this
of the turns of the engine and of the parts that were handed on, and `Performs` relates the
states before and after.

| step | prompts | what it adds |
| --- | --- | --- |
| `say_spec`, `sayAll_spec` | | the turns of the runs |
| `render_spec`, `deliver_spec` | one | the audio of the prompt |
| `deliverLines_spec` | one for each line | what these add |
| `deliverOne_spec`, `deliverAll_spec` | those of the segments | what these add |

For each of the steps there is one lemma, and none of them asks how the attempts end, or what
the decoder makes of a recording.
-/

import Recital.Delivery.Basic
import Recital.Proofs.Audio.Spoken
import Recital.Proofs.Delivery.Attempt
import Recital.Proofs.Delivery.Prompt
import Recital.Proofs.Stateful

namespace Recital

/-- Whether a prompt is said in these turns and sounds like that: its runs are heard one by one,
and then joined and brought to its volume. -/
def Segment.Sounds (engine : Engine) (voice : String) (s : Segment) (turns : List Turn)
    (a : Audio) : Prop :=
  ∃ heard, Voiced engine voice s.runs turns heard none ∧ s.mix heard = .ok a

/-- Whether a prompt fails in these turns because of an error, either of one of its runs or, once
all of them are heard, on the way to its audio. -/
def Segment.Breaks (engine : Engine) (voice : String) (s : Segment) (turns : List Turn)
    (error : Error) : Prop :=
  ∃ heard, Voiced engine voice s.runs turns heard (some error) ∨
    (Voiced engine voice s.runs turns heard none ∧ s.mix heard = .error error)

/-- **Where the engine records in one format,** only it and its decoder fail. -/
theorem Segment.Breaks.speech_or_decoding {engine : Engine} {format : Audio}
    (uniform : engine.Uniform format) {voice : String} {s : Segment} {turns : List Turn}
    {error : Error} (h : s.Breaks engine voice turns error) :
    (∃ fault, error = .speech fault) ∨ ∃ reason, error = .decoding reason := by
  obtain ⟨heard, voiced | ⟨voiced, failed⟩⟩ := h
  · exact voiced.speech_or_decoding
  · obtain ⟨part, mixed⟩ := s.exists_mix uniform voiced.length_heard voiced.decoded
    rw [mixed] at failed
    cases failed

/-- Whether prompts are delivered in their order by these turns, with these parts as their
audio, up to a prompt that fails because of an error, if there is one. -/
inductive Delivered (engine : Engine) (voice : String) :
    List Segment → List Turn → List Audio → Option Error → Prop where
  | done : Delivered engine voice [] [] [] none
  | delivered {s : Segment} {prompts : List Segment} {turns later : List Turn} {a : Audio}
      {parts : List Audio} {error? : Option Error} (sounds : s.Sounds engine voice turns a)
      (rest : Delivered engine voice prompts later parts error?) :
      Delivered engine voice (s :: prompts) (turns ++ later) (a :: parts) error?
  | broken {s : Segment} {prompts : List Segment} {turns : List Turn} {error : Error}
      (breaks : s.Breaks engine voice turns error) :
      Delivered engine voice (s :: prompts) turns [] (some error)

namespace Delivered

variable {engine : Engine} {voice : String} {prompts more : List Segment}
  {turns later : List Turn} {parts others : List Audio} {error? : Option Error} {error : Error}

theorem append (h : Delivered engine voice prompts turns parts none)
    (h' : Delivered engine voice more later others error?) :
    Delivered engine voice (prompts ++ more) (turns ++ later) (parts ++ others) error? := by
  generalize none? : (none : Option Error) = ended at h
  induction h with
  | done => exact h'
  | delivered sounds _ ih =>
    rw [List.append_assoc]
    exact .delivered sounds (ih none?)
  | broken => cases none?

theorem stop (h : Delivered engine voice prompts turns parts (some error))
    (more : List Segment) : Delivered engine voice (prompts ++ more) turns parts (some error) := by
  generalize some? : some error = ended at h
  induction h with
  | done => cases some?
  | delivered sounds _ ih => exact .delivered sounds (ih some?)
  | broken breaks =>
    obtain rfl := Option.some.inj some?
    exact .broken breaks

/-- **A delivery that does not fail,** prompt by prompt: each has its turns and its part. -/
theorem exists_said (h : Delivered engine voice prompts turns parts none) :
    ∃ said : List (List Turn × Audio),
      List.Forall₂ (fun s t => s.Sounds engine voice t.1 t.2) prompts said ∧
        turns = said.flatMap Prod.fst ∧ parts = said.map Prod.snd := by
  generalize none? : (none : Option Error) = ended at h
  induction h with
  | done => exact ⟨[], .nil, rfl, rfl⟩
  | delivered sounds _ ih =>
    obtain ⟨said, each, rfl, rfl⟩ := ih none?
    exact ⟨(_, _) :: said, .cons sounds each, rfl, rfl⟩
  | broken => cases none?

/-- **A delivery that fails** does so at one prompt: all before it are delivered, and nothing
is done for those behind it. -/
theorem exists_broken (h : Delivered engine voice prompts turns parts (some error)) :
    ∃ before s after first last, prompts = before ++ s :: after ∧ turns = first ++ last ∧
      Delivered engine voice before first parts none ∧ s.Breaks engine voice last error := by
  generalize some? : some error = ended at h
  induction h with
  | done => cases some?
  | delivered sounds _ ih =>
    obtain ⟨before, t, after, first, last, rfl, rfl, delivered, breaks⟩ := ih some?
    refine ⟨_ :: before, t, after, _ ++ first, last, rfl, ?_, .delivered sounds delivered, breaks⟩
    rw [List.append_assoc]
  | broken breaks =>
    obtain rfl := Option.some.inj some?
    exact ⟨[], _, _, [], _, rfl, rfl, .done, breaks⟩

end Delivered

namespace Performance

/-- A result, unless there was an error. -/
def answer {α : Type} (result : α) : Option Error → Except Error α
  | none => .ok result
  | some error => .error error

/-- Whether the delivery of prompts leads from one state to another. -/
def Performs (engine : Engine) (voice : String) (prompts : List Segment)
    (error? : Option Error) (p q : Performance) : Prop :=
  ∃ turns parts, Delivered engine voice prompts turns parts error? ∧
    p.booth.Made q.booth (turns.flatMap Turn.tries) ∧ q.parts = p.parts ++ parts

variable {engine : Engine} {voice : String} {prompts more : List Segment}
  {error? : Option Error} {error : Error} {p q r : Performance}

/-- A step that makes no attempts and hands nothing on delivers no prompt. -/
theorem performs_nil (made : p.booth.Made q.booth []) (parts : q.parts = p.parts) :
    Performs engine voice [] none p q :=
  ⟨[], [], .done, made, by rw [parts, List.append_nil]⟩

theorem Performs.append (h : Performs engine voice prompts none p q)
    (h' : Performs engine voice more error? q r) :
    Performs engine voice (prompts ++ more) error? p r := by
  obtain ⟨turns, parts, delivered, made, added⟩ := h
  obtain ⟨later, others, delivered', made', added'⟩ := h'
  refine ⟨turns ++ later, parts ++ others, delivered.append delivered', ?_, ?_⟩
  · rw [List.flatMap_append]
    exact made.trans made'
  · rw [added', added, List.append_assoc]

theorem Performs.stop (h : Performs engine voice prompts (some error) p q)
    (more : List Segment) : Performs engine voice (prompts ++ more) (some error) p q := by
  obtain ⟨turns, parts, delivered, made, added⟩ := h
  exact ⟨turns, parts, delivered.stop more, made, added⟩

theorem Performs.engine_eq (h : Performs engine voice prompts error? p q)
    (same : p.booth.engine = engine) : q.booth.engine = engine := by
  obtain ⟨turns, parts, delivered, made, added⟩ := h
  exact made.engine.trans same

/-- What a run comes to: what becomes of its call, and then of the recording. -/
theorem run_say (voice : String) {run : Run} {prosody : Prosody}
    (ok : run.style.prosody = .ok prosody) {result : Except SpeechFault Recording} {after : Booth}
    (spoken : p.booth.speak ⟨run.text, (run.voice.map Voice.id).getD voice, prosody⟩ .missing =
      (result, after)) :
    (say voice run).run p =
      ((result.mapError Error.speech).bind fun recording =>
        (p.booth.engine.decode recording.bytes).mapError Error.decoding,
        { p with booth := after }) := by
  rw [say, ok]
  refine (ExceptT.run_bind_of_ok rfl).trans ((ExceptT.run_bind_of_ok rfl).trans ?_)
  rw [spoken]
  cases result <;> rfl

/-- **A run is heard,** or it ends in a failure, whatever runs there are behind it. -/
theorem say_spec (voice : String) {run : Run} (h : ∃ prosody, run.style.prosody = .ok prosody)
    (same : p.booth.engine = engine) :
    ∃ t after, p.booth.Made after t.tries ∧
      ((∃ a, (say voice run).run p = (.ok a, { p with booth := after }) ∧
          run.Asks voice t.call ∧ Said t.attempts ∧
            engine.decode (Attempt.left t.attempts).bytes = .ok a) ∨
        ∃ error, (say voice run).run p = (.error error, { p with booth := after }) ∧
          ∀ runs, Voiced engine voice (run :: runs) [t] [] (some error)) := by
  obtain ⟨prosody, ok⟩ := h
  have asked : run.Asks voice ⟨run.text, (run.voice.map Voice.id).getD voice, prosody⟩ :=
    ⟨rfl, rfl, ok⟩
  obtain ⟨attempts, after, made, ⟨spoken, said⟩ | ⟨fault, failed, givenUp⟩⟩ :=
    p.booth.speak_spec ⟨run.text, (run.voice.map Voice.id).getD voice, prosody⟩
  · refine ⟨⟨_, attempts⟩, after, made, ?_⟩
    rw [run_say voice ok spoken, same]
    cases decoded : engine.decode (Attempt.left attempts).bytes with
    | ok a =>
      refine .inl ⟨a, ?_, asked, said, rfl⟩
      simp [Except.mapError, Except.bind, decoded]
    | error reason =>
      refine .inr ⟨.decoding reason, ?_, fun runs => .garbled asked said decoded⟩
      simp [Except.mapError, Except.bind, decoded]
  · refine ⟨⟨_, attempts⟩, after, made,
      .inr ⟨.speech fault, ?_, fun runs => .givenUp asked givenUp⟩⟩
    rw [run_say voice ok failed]
    rfl

/-- **Runs are said in their order,** up to one that ends in a failure. -/
theorem sayAll_spec (voice : String) {runs : List Run}
    (h : ∀ run ∈ runs, ∃ prosody, run.style.prosody = .ok prosody)
    (same : p.booth.engine = engine) :
    ∃ turns heard error? after, Voiced engine voice runs turns heard error? ∧
      p.booth.Made after (turns.flatMap Turn.tries) ∧
      (runs.mapM (say voice)).run p = (answer heard error?, { p with booth := after }) := by
  induction runs generalizing p with
  | nil => exact ⟨[], [], none, p.booth, .done, .refl p.booth, rfl⟩
  | cons run runs ih =>
    rw [List.mapM_cons]
    obtain ⟨t, next, made, ⟨a, said, asked, ended, decoded⟩ | ⟨error, failed, voiced⟩⟩ :=
      say_spec voice (h run List.mem_cons_self) same
    · obtain ⟨turns, heard, error?, after, rest, more, ran⟩ :=
        ih (p := { p with booth := next }) (fun run mem => h run (List.mem_cons_of_mem _ mem))
          (made.engine.trans same)
      refine ⟨t :: turns, a :: heard, error?, after, .said asked ended decoded rest,
        made.trans more, ?_⟩
      rw [ExceptT.run_bind_of_ok said]
      cases error? with
      | none => exact (ExceptT.run_bind_of_ok ran).trans rfl
      | some error => exact ExceptT.run_bind_of_error ran
    · refine ⟨[t], [], some error, next, voiced runs, by simpa using made, ?_⟩
      exact ExceptT.run_bind_of_error failed

/-- **A prompt is rendered,** or fails. -/
theorem render_spec (voice : String) {s : Segment} (h : s.Sayable)
    (same : p.booth.engine = engine) :
    ∃ turns after, p.booth.Made after (turns.flatMap Turn.tries) ∧
      ((∃ a, (render voice s).run p = (.ok a, { p with booth := after }) ∧
          s.Sounds engine voice turns a) ∨
        ∃ error, (render voice s).run p = (.error error, { p with booth := after }) ∧
          s.Breaks engine voice turns error) := by
  obtain ⟨turns, heard, error?, after, voiced, made, ran⟩ :=
    sayAll_spec voice h.rendered.prosody same
  refine ⟨turns, after, made, ?_⟩
  rw [render]
  cases error? with
  | some error => exact .inr ⟨error, ExceptT.run_bind_of_error ran, heard, .inl voiced⟩
  | none =>
    rw [ExceptT.run_bind_of_ok ran]
    cases mixed : s.mix heard with
    | ok a => exact .inl ⟨a, rfl, heard, voiced, mixed⟩
    | error error => exact .inr ⟨error, rfl, heard, .inr ⟨voiced, mixed⟩⟩

/-- **A prompt is delivered:** its audio is handed on, unless it fails. -/
theorem deliver_spec (voice : String) {s : Segment} (h : s.Sayable)
    (same : p.booth.engine = engine) :
    ∃ error? q, (deliver voice s).run p = (answer () error?, q) ∧
      Performs engine voice [s] error? p q ∧ q.input = p.input := by
  rw [deliver, if_pos h.hasText]
  obtain ⟨turns, after, made, ⟨a, rendered, sounds⟩ | ⟨error, failed, breaks⟩⟩ :=
    render_spec voice h same
  · refine ⟨none, { p with booth := after, parts := p.parts ++ [a] },
      ExceptT.run_bind_of_ok rendered, ⟨turns, [a], ?_, made, rfl⟩, rfl⟩
    simpa using Delivered.delivered sounds .done
  · exact ⟨some error, { p with booth := after }, ExceptT.run_bind_of_error failed,
      ⟨turns, [], .broken breaks, made, (List.append_nil _).symm⟩, rfl⟩

/-- A notice delivers nothing. -/
theorem performs_note (n : Notice) (p : Performance) :
    Performs engine voice [] none p { p with booth := p.booth.note n } :=
  performs_nil ((Booth.Made.refl p.booth).of_eq rfl rfl) rfl

/-- **Lines are delivered** in their order; blank ones are passed over. -/
theorem deliverLines_spec (voice : String) {context : Context} {volume : Int}
    {lines : List String}
    (h : ∀ line : String, line ∈ heardLines lines → (context.prompt line volume).Sayable)
    (same : p.booth.engine = engine) :
    ∃ error? q, (deliverLines voice context volume lines).run p =
        (answer (heardLines lines).length error?, q) ∧
      Performs engine voice
        ((heardLines lines).map fun line : String => context.prompt line volume) error? p q ∧
      q.input = p.input := by
  induction lines generalizing p with
  | nil => exact ⟨none, p, rfl, performs_nil (.refl p.booth) rfl, rfl⟩
  | cons line lines ih =>
    rw [deliverLines]
    by_cases blank : Text.isBlankText line = true
    · have skipped : heardLines (line :: lines) = heardLines lines :=
        List.filter_cons_of_neg (by simp [blank])
      rw [if_pos blank, skipped]
      exact ih (fun other mem => h other (skipped ▸ mem)) same
    · have heard : heardLines (line :: lines) = line :: heardLines lines :=
        List.filter_cons_of_pos (by simp [blank])
      rw [heard] at h
      rw [if_neg blank, heard]
      obtain ⟨error?, next, ran, performs, input⟩ :=
        deliver_spec voice (h line List.mem_cons_self) same
      cases error? with
      | some error =>
        exact ⟨some error, next, ExceptT.run_bind_of_error ran, performs.stop _, input⟩
      | none =>
        obtain ⟨error?, q, ranRest, rest, input'⟩ :=
          ih (fun other mem => h other (List.mem_cons_of_mem _ mem)) (performs.engine_eq same)
        refine ⟨error?, q, ?_, performs.append rest, input'.trans input⟩
        rw [ExceptT.run_bind_of_ok ran]
        cases error? with
        | none => exact (ExceptT.run_bind_of_ok ranRest).trans rfl
        | some error => exact ExceptT.run_bind_of_error ranRest

/-- **Live input** takes all lines that are left and delivers their prompts. -/
theorem deliverInput_spec (voice : String) {context : Context} {volume : Int}
    {lines : List String}
    (h : ∀ line : String, line ∈ heardLines lines → (context.prompt line volume).Sayable)
    (same : p.booth.engine = engine) :
    ∃ error? q, (deliverInput voice context volume { lines := lines }).run p =
        (answer () error?, q) ∧
      Performs engine voice
        ((heardLines lines).map fun line : String => context.prompt line volume) error? p q ∧
      q.input = some {} := by
  let emptied : Performance := { p with input := some {} }
  have start : (modify fun p => { p with input := some {} } : Step Unit).run p =
      (.ok (), emptied) := rfl
  have nothing : Performs engine voice [] none p emptied := performs_nil (.refl p.booth) rfl
  obtain ⟨error?, q, ran, performs, input⟩ := deliverLines_spec (p := emptied) voice h same
  rw [deliverInput, ExceptT.run_bind_of_ok start]
  cases error? with
  | some error =>
    exact ⟨some error, q, ExceptT.run_bind_of_error ran, nothing.append performs, input⟩
  | none =>
    let n : Notice := .inputEnded (heardLines lines).length
    have all := (nothing.append performs).append (performs_note n q)
    rw [List.append_nil] at all
    exact ⟨none, { q with booth := q.booth.note n }, ExceptT.run_bind_of_ok ran, all, input⟩

/-- **A segment is delivered** as its prompts. -/
theorem deliverOne_spec (voice : String) (number total : Nat) {s : Segment} {lines : List String}
    (h : ∀ prompt ∈ s.prompts lines, prompt.Sayable) (same : p.booth.engine = engine)
    (input : p.input = some { lines := lines }) :
    ∃ error? q, (deliverOne voice number total s).run p = (answer () error?, q) ∧
      Performs engine voice (s.prompts lines) error? p q ∧
      q.input = some { lines := s.linesLeft lines } := by
  rw [Segment.prompts] at h ⊢
  rw [Segment.linesLeft, deliverOne]
  cases live : s.interactive with
  | none =>
    rw [live] at h
    let n : Notice := .spokenSegment number total s.volume
    have noted : (note n).run p = (.ok (), { p with booth := p.booth.note n }) := rfl
    obtain ⟨error?, q, ran, performs, kept⟩ :=
      deliver_spec (p := { p with booth := p.booth.note n }) voice (h s List.mem_cons_self) same
    refine ⟨error?, q, ?_, (performs_note n p).append performs, kept.trans input⟩
    exact (ExceptT.run_bind_of_ok noted).trans ran
  | some context =>
    rw [live] at h
    let n : Notice := .interactiveSegment number total s.volume
    have asked : (get : Step Performance).run p = (.ok p, p) := rfl
    have noted : (note n).run p = (.ok (), { p with booth := p.booth.note n }) := rfl
    obtain ⟨error?, q, ran, performs, used⟩ :=
      deliverInput_spec (p := { p with booth := p.booth.note n }) voice
        (fun line mem => h _ (List.mem_map.2 ⟨line, mem, rfl⟩)) same
    refine ⟨error?, q, ?_, (performs_note n p).append performs, used⟩
    dsimp only
    rw [ExceptT.run_bind_of_ok asked, input]
    exact (ExceptT.run_bind_of_ok noted).trans ran

/-- **Segments are delivered** as their prompts, in their order, up to one that fails. -/
theorem deliverFrom_spec (voice : String) (total number : Nat) {segments : List Segment}
    {lines : List String} (h : ∀ prompt ∈ Recital.prompts lines segments, prompt.Sayable)
    (same : p.booth.engine = engine) (input : p.input = some { lines := lines }) :
    ∃ error? q, (deliverFrom voice total number segments).run p = (answer () error?, q) ∧
      Performs engine voice (Recital.prompts lines segments) error? p q := by
  induction segments generalizing number lines p with
  | nil => exact ⟨none, p, rfl, performs_nil (.refl p.booth) rfl⟩
  | cons s segments ih =>
    rw [prompts_cons] at h ⊢
    obtain ⟨here, later⟩ := List.forall_mem_append.1 h
    obtain ⟨error?, next, ran, performs, left⟩ :=
      deliverOne_spec voice number total here same input
    rw [deliverFrom]
    cases error? with
    | some error => exact ⟨some error, next, ExceptT.run_bind_of_error ran, performs.stop _⟩
    | none =>
      obtain ⟨error?, q, rest, more⟩ := ih (number + 1) later (performs.engine_eq same) left
      exact ⟨error?, q, (ExceptT.run_bind_of_ok ran).trans rest, performs.append more⟩

/-- **What the delivery of compiled segments does.** -/
theorem deliverAll_spec (voice : String) {chooser : Chooser} {xs : List Instruction}
    {segments : List Segment} (ok : (compile chooser xs).result = .ok segments)
    (lines : List String) (same : p.booth.engine = engine)
    (input : p.input = some { lines := lines }) :
    ∃ error? q, (deliverAll voice segments).run p = (answer () error?, q) ∧
      Performs engine voice (Recital.prompts lines segments) error? p q :=
  deliverFrom_spec voice segments.length 1 (sayable_of_mem_prompts ok lines) same input

end Performance
end Recital
