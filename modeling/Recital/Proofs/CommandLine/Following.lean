/-
# What following steps comes to

Following a step changes the request, the words that belong to no option, or what there is to
report.  Forwards, steps that each add instructions and go through do so together
(`useSteps_of_adds`).  Backwards, steps that go through together are all of them options that
were given, and the two early options are set in the request exactly if they are among the
steps (`useSteps_accepted`): no other option touches them.  That holds of a request that lacks
a value as it does of one that does not.
-/

import Mathlib.Data.List.Forall2
import Recital.CommandLine.Request
import Recital.Proofs.Stateful

namespace Recital
namespace CommandLine

variable {s : Surroundings}

/-! ### Forwards -/

/-- Whether a request becomes another one with some more instructions, and nothing more is
lost. -/
structure Request.Adds (r : Request) (xs : List Instruction) (r' : Request) : Prop where
  instructions : r'.instructions = r.instructions ++ xs
  lost : r'.lost ⊆ r.lost

/-- Whether following a step adds instructions and changes nothing but the request. -/
def Step.Adds (s : Surroundings) (step : Step) (xs : List Instruction) : Prop :=
  ∀ p : Progress, ∃ r : Request, (useStep s step).run p = (.ok (), { p with request := r }) ∧
    p.request.Adds xs r

/-- A value other than `--` comes to its option. -/
theorem useStep_of_kept {f : Flag} {value : String} (kept : value ≠ "--") :
    useStep s (.given f (some value)) = useFlag s f value := by
  rw [useStep]
  · rfl
  · exact fun same => kept (Option.some.inj same)

/-- Steps that each add their instructions go through and add them in order. -/
theorem useSteps_of_adds {steps : List Step} {xss : List (List Instruction)}
    (h : List.Forall₂ (Step.Adds s) steps xss) (p : Progress) :
    ∃ r : Request, (steps.forM (useStep s)).run p = (.ok (), { p with request := r }) ∧
      p.request.Adds xss.flatten r := by
  induction h generalizing p with
  | nil => exact ⟨p.request, rfl, (List.append_nil _).symm, List.Subset.refl _⟩
  | cons here _ ih =>
    obtain ⟨r, run, added⟩ := here p
    obtain ⟨r', rest, more⟩ := ih { p with request := r }
    refine ⟨r', (ExceptT.run_bind_of_ok run).trans rest, ?_, ?_⟩
    · rw [more.instructions, added.instructions, List.flatten_cons, List.append_assoc]
    · exact List.Subset.trans more.lost added.lost

/-- What steps come to that went through. -/
theorem useSteps_of_ok {steps : List Step} {p : Progress}
    (followed : (steps.forM (useStep s)).run {} = (.ok (), p)) :
    (useSteps s steps).run {} =
      (if !p.extras.isEmpty then .error (.complaint (.unrecognized p.extras))
      else if p.lossy || !p.request.lost.isEmpty then .error (.lossy p.request)
      else .ok p.request, p) := by
  rw [useSteps, ExceptT.run_bind_of_ok followed]
  change (ExceptT.run (if !p.extras.isEmpty then throw (.complaint (.unrecognized p.extras))
    else if p.lossy || !p.request.lost.isEmpty then throw (.lossy p.request)
    else pure p.request : Follow Request)) p = _
  split
  · rfl
  · split <;> rfl

/-- Steps that each add their instructions give a request with all of them. -/
theorem exists_useSteps_of_adds {steps : List Step} {xss : List (List Instruction)}
    (h : List.Forall₂ (Step.Adds s) steps xss) :
    ∃ request, (useSteps s steps).run {} = (.ok request, { request := request }) ∧
      request.instructions = xss.flatten := by
  obtain ⟨r, run, added⟩ := useSteps_of_adds h {}
  refine ⟨r, ?_, added.instructions⟩
  have kept : r.lost = [] := List.subset_nil.1 added.lost
  rw [useSteps_of_ok run, kept]
  rfl

/-! ### Backwards -/

/-- Whether one of the two early options is set. -/
def Request.has (r : Request) : Flag → Bool
  | .verbose => r.verbose
  | .onlineVoices => r.onlineVoices
  | _ => false

/-- Whether a command line is accepted, with a request: it may be one of which a value was
lost. -/
def Accepted (result : Except Halt Request) (request : Request) : Prop :=
  result = .ok request ∨ result = .error (.lossy request)

/-- Whether a computation that goes through leaves the early options as they are, and the words
that belong to no option.  If it does not go through, it has come to no request. -/
structure Follow.Keeps {α : Type} (x : Follow α) : Prop where
  onward : ∀ p a p', x.run p = (.ok a, p') →
    p'.extras = p.extras ∧ p'.request.has = p.request.has
  ending : ∀ p request p', x.run p ≠ (.error (.lossy request), p')

namespace Follow

variable {α β : Type}

theorem keeps_pure (a : α) : Keeps (pure a : Follow α) where
  onward := by
    rintro p _ _ ⟨⟩
    exact ⟨rfl, rfl⟩
  ending := by rintro p request p' ⟨⟩

theorem keeps_throw {halt : Halt} (noRequest : ∀ request, halt ≠ .lossy request) :
    Keeps (throw halt : Follow α) where
  onward := by rintro p a p' ⟨⟩
  ending := by
    rintro p request p' ⟨⟩
    exact noRequest request rfl

theorem Keeps.bind {x : Follow α} {f : α → Follow β} (first : Keeps x)
    (rest : ∀ a, Keeps (f a)) : Keeps (x >>= f) where
  onward := by
    intro p b p' h
    obtain ⟨a, p₁, here, later⟩ := ExceptT.exists_of_run_bind_eq_ok h
    obtain ⟨extras, has⟩ := first.onward p a p₁ here
    obtain ⟨extras', has'⟩ := (rest a).onward p₁ b p' later
    exact ⟨extras'.trans extras, has'.trans has⟩
  ending := by
    intro p request p' h
    rcases ExceptT.run_bind_eq_error h with here | ⟨a, p₁, -, later⟩
    · exact first.ending p request p' here
    · exact (rest a).ending p₁ request p' later

theorem keeps_modify {f : Progress → Progress} (extras : ∀ p, (f p).extras = p.extras)
    (has : ∀ p, (f p).request.has = p.request.has) : Keeps (modify f : Follow Unit) where
  onward := by
    rintro p _ _ ⟨⟩
    exact ⟨extras p, has p⟩
  ending := by rintro p request p' ⟨⟩

theorem keeps_change {f : Request → Request} (has : ∀ r, (f r).has = r.has) :
    Keeps (change f) :=
  keeps_modify (fun _ => rfl) fun p => has p.request

theorem keeps_add (x : Instruction) : Keeps (add x) := keeps_change fun _ => rfl

theorem keeps_refuse (f : Flag) (reason : Unsuitable) : Keeps (refuse f reason : Follow α) :=
  keeps_throw fun _ same => nomatch same

theorem keeps_fail (failure : Failure) : Keeps (throw (.failure failure) : Follow α) :=
  keeps_throw fun _ same => nomatch same

theorem keeps_accept (f : Flag) (x : Except Instruction.Defect Instruction) :
    Keeps (accept f x) := by
  cases x with
  | ok x => exact keeps_add x
  | error d => exact keeps_refuse f _

theorem keeps_fetch (f : Flag) (location : String) : Keeps (fetch s f location) := by
  refine Keeps.bind (keeps_modify (fun _ => rfl) fun _ => rfl) fun _ => ?_
  split
  · exact keeps_pure _
  · split
    · exact keeps_refuse _ _
    · exact keeps_fail _

theorem keeps_addVoice (name : String) : Keeps (addVoice s name) := by
  rw [addVoice]
  split
  · exact Keeps.bind (keeps_modify (fun _ => rfl) fun _ => rfl) fun _ => keeps_add _
  · split
    · exact keeps_add _
    · exact keeps_throw fun _ same => nomatch same

theorem keeps_addTemplate (location : String) : Keeps (addTemplate s location) := by
  refine Keeps.bind (keeps_fetch _ _) fun document => ?_
  split
  · exact keeps_add _
  · exact keeps_fail _
  · exact keeps_refuse _ _

/-- No other option touches the early ones. -/
theorem keeps_useFlag {f : Flag} (value : String) (late : f ∉ Flag.early) :
    Keeps (useFlag s f value) := by
  cases f with
  | verbose => exact absurd List.mem_cons_self late
  | onlineVoices => exact absurd (List.mem_cons_of_mem _ List.mem_cons_self) late
  | help => exact keeps_throw fun _ same => nomatch same
  | version => exact keeps_throw fun _ same => nomatch same
  | textFile => exact Keeps.bind (keeps_fetch _ _) fun text => keeps_add _
  | voice => exact keeps_addVoice value
  | template => exact keeps_addTemplate value
  | seed =>
    rw [useFlag]
    split
    · exact keeps_change fun _ => rfl
    · exact keeps_refuse _ _
  | dial d =>
    rw [useFlag]
    split
    · exact keeps_accept _ _
    · exact keeps_refuse _ _
  | loop fade =>
    rw [useFlag]
    split
    · exact keeps_accept _ _
    · exact keeps_refuse _ _
  | listVoices | ssml | output | defaultVoice =>
    rw [useFlag]
    exact keeps_change fun _ => rfl
  | text | reset | sentence | endSentence | paragraph | endParagraph | interactive =>
    exact keeps_add _

/-- A value that was lost touches no early option. -/
theorem keeps_useLost (f : Flag) : Keeps (useLost f) := by
  cases f with
  | text => exact Keeps.bind (keeps_modify (fun _ => rfl) fun _ => rfl) fun _ => keeps_add _
  | output | defaultVoice | seed =>
    rw [useLost]
    exact keeps_change fun _ => rfl
  | _ => exact keeps_fail _

end Follow

/-- An early option is set by itself, and leaves the other one as it is. -/
theorem has_of_useFlag_early {e f : Flag} {value : String} {p p' : Progress}
    (early : f ∈ Flag.early) (h : (useFlag s f value).run p = (.ok (), p')) :
    p'.extras = p.extras ∧ (p'.request.has e = true ↔ p.request.has e = true ∨ f = e) := by
  rcases List.mem_cons.1 early with rfl | early
  · cases h
    refine ⟨rfl, ?_⟩
    cases e <;> simp [Request.has]
  · rcases List.mem_singleton.1 early with rfl
    cases h
    refine ⟨rfl, ?_⟩
    cases e <;> simp [Request.has]

/-- An option that goes on without its value is no early one, nor the one that prints the help. -/
theorem early_of_useLost {f : Flag} {p p' : Progress} (h : (useLost f).run p = (.ok (), p')) :
    f ∉ Flag.early ∧ f ≠ .help := by
  cases f with
  | text | output | defaultVoice | seed => decide
  | _ => cases h

/-- Whether a step is an option that was given and does not end the work. -/
def Step.Passes : Step → Prop
  | .given f _ => f ≠ .help
  | _ => False

/-- What a step is that goes through: a word that belongs to no option, or an option that was
given and does not end the work. -/
theorem useStep_eq_ok {step : Step} {p p' : Progress}
    (h : (useStep s step).run p = (.ok (), p')) :
    p'.extras ≠ [] ∨ ∃ f value, step = .given f value ∧ f ≠ .help ∧ p'.extras = p.extras ∧
      ∀ e ∈ Flag.early, (p'.request.has e = true ↔ p.request.has e = true ∨ f = e) := by
  have other {f : Flag} (late : f ∉ Flag.early) (has : p'.request.has = p.request.has) :
      ∀ e ∈ Flag.early, (p'.request.has e = true ↔ p.request.has e = true ∨ f = e) := by
    intro e mem
    rw [has, or_iff_left]
    rintro rfl
    exact late mem
  cases step with
  | extra word =>
    cases h
    exact .inl (List.append_ne_nil_of_right_ne_nil _ (List.cons_ne_nil _ _))
  | withoutValue f => cases h
  | needlessValue f value => cases h
  | given f value =>
    refine .inr ⟨f, value, rfl, ?_⟩
    by_cases lost : value = some "--"
    · subst lost
      obtain ⟨late, noHelp⟩ := early_of_useLost h
      obtain ⟨extras, has⟩ := (Follow.keeps_useLost f).onward p () p' h
      exact ⟨noHelp, extras, other late has⟩
    have used : (useFlag s f (value.getD "")).run p = (.ok (), p') := by
      rw [useStep] at h
      · exact h
      · exact fun same => lost same
    have noHelp : f ≠ .help := by
      rintro rfl
      cases used
    by_cases early : f ∈ Flag.early
    · exact ⟨noHelp, (has_of_useFlag_early (e := f) early used).1,
        fun e _ => (has_of_useFlag_early early used).2⟩
    · obtain ⟨extras, has⟩ := (Follow.keeps_useFlag _ early).onward p () p' used
      exact ⟨noHelp, extras, other early has⟩

/-- A step that does not go through comes to no request. -/
theorem useStep_ne_lossy (step : Step) (p : Progress) (request : Request) (p' : Progress) :
    (useStep s step).run p ≠ (.error (.lossy request), p') := by
  cases step with
  | extra word => rintro ⟨⟩
  | withoutValue f => rintro ⟨⟩
  | needlessValue f value => rintro ⟨⟩
  | given f value =>
    by_cases lost : value = some "--"
    · subst lost
      exact (Follow.keeps_useLost f).ending p request p'
    rw [useStep]
    · by_cases early : f ∈ Flag.early
      · rcases List.mem_cons.1 early with rfl | early
        · rintro ⟨⟩
        · rcases List.mem_singleton.1 early with rfl
          rintro ⟨⟩
      · exact (Follow.keeps_useFlag _ early).ending p request p'
    · exact fun same => lost same

theorem forM_useStep_ne_lossy (steps : List Step) (p : Progress) (request : Request)
    (p' : Progress) : (steps.forM (useStep s)).run p ≠ (.error (.lossy request), p') := by
  induction steps generalizing p with
  | nil => rintro ⟨⟩
  | cons step steps ih =>
    intro h
    rcases ExceptT.run_bind_eq_error h with here | ⟨⟨⟩, p₁, -, later⟩
    · exact useStep_ne_lossy step p request p' here
    · exact ih p₁ later

/-- Whether an option is among steps. -/
def Gives (e : Flag) (steps : List Step) : Prop := ∃ value, .given e value ∈ steps

theorem gives_cons {e f : Flag} {value : Option String} {steps : List Step} :
    Gives e (.given f value :: steps) ↔ f = e ∨ Gives e steps := by
  constructor
  · rintro ⟨v, mem⟩
    rcases List.mem_cons.1 mem with here | later
    · exact .inl (Step.given.inj here).1.symm
    · exact .inr ⟨v, later⟩
  · rintro (rfl | ⟨v, later⟩)
    · exact ⟨value, List.mem_cons_self⟩
    · exact ⟨v, List.mem_cons_of_mem _ later⟩

theorem gives_append {e : Flag} {steps later : List Step} :
    Gives e (steps ++ later) ↔ Gives e steps ∨ Gives e later := by
  simp only [Gives, List.mem_append, exists_or]

theorem not_gives_nil {e : Flag} : ¬ Gives e [] := fun ⟨_, mem⟩ => List.not_mem_nil mem

/-- Steps that go through and leave no word over are all of them options that were given, and an
early option is set in the end exactly if it was before or is among them. -/
theorem forM_useStep_eq_ok {steps : List Step} {p p' : Progress}
    (h : (steps.forM (useStep s)).run p = (.ok (), p')) (none : p'.extras = []) :
    p.extras = [] ∧ (∀ step ∈ steps, step.Passes) ∧ ∀ e ∈ Flag.early,
      (p'.request.has e = true ↔ p.request.has e = true ∨ Gives e steps) := by
  induction steps generalizing p with
  | nil =>
    cases h
    exact ⟨none, List.forall_mem_nil _, fun e _ => (or_iff_left not_gives_nil).symm⟩
  | cons step steps ih =>
    obtain ⟨⟨⟩, p₁, here, later⟩ := ExceptT.exists_of_run_bind_eq_ok h
    obtain ⟨none₁, passes, has⟩ := ih later
    rcases useStep_eq_ok here with some₁ | ⟨f, value, rfl, noHelp, same, set⟩
    · exact absurd none₁ some₁
    · refine ⟨same.symm.trans none₁, List.forall_mem_cons.2 ⟨noHelp, passes⟩, ?_⟩
      intro e mem
      rw [has e mem, set e mem, or_assoc, gives_cons]

/-- **What steps are that give a request**, whether or not a value was lost. -/
theorem useSteps_accepted {steps : List Step} {request : Request}
    (h : Accepted ((useSteps s steps).run {}).1 request) :
    (∀ step ∈ steps, step.Passes) ∧ ∀ e ∈ Flag.early,
      (request.has e = true ↔ Gives e steps) := by
  cases followed : (steps.forM (useStep s)).run {} with
  | mk result p =>
    cases result with
    | error halt =>
      rw [useSteps, ExceptT.run_bind_of_error followed] at h
      rcases h with ⟨⟨⟩⟩ | same
      cases same
      exact absurd followed (forM_useStep_ne_lossy steps {} request p)
    | ok done =>
      rw [useSteps_of_ok followed] at h
      by_cases none : p.extras = []
      · have same : p.request = request := by
          rw [none] at h
          rcases h with same | same
          all_goals
            dsimp only at same
            rw [if_neg (by simp)] at same
            split at same
            all_goals
              cases same
          all_goals rfl
        subst same
        obtain ⟨-, passes, has⟩ := forM_useStep_eq_ok followed none
        refine ⟨passes, fun e mem => ?_⟩
        rw [has e mem, or_iff_right]
        rcases List.mem_cons.1 mem with rfl | mem
        · exact Bool.false_ne_true
        · rw [List.mem_singleton.1 mem]
          exact Bool.false_ne_true
      · rw [if_pos (by simp [none])] at h
        rcases h with ⟨⟨⟩⟩ | ⟨⟨⟩⟩

end CommandLine
end Recital
