/-
# Values that end a session

Items in front of an option go through, whatever they are, and words behind it do not count once
its value has ended the reading (`read_halted`).  What a session comes to then is told by what
ended it:

| the value is | the session |
| --- | --- |
| complained about | prints the complaint under the usage, and its exit code is 2 |
| the cause of a failure | fails with it |
-/

import Recital.Proofs.CommandLine.Item
import Recital.Session

namespace Recital

namespace CommandLine

variable {s : Surroundings} {f : Flag} {word value : String} {given : List String} {halt : Halt}
  {addresses : List String}

/-- Whether following an option with a value ends the work, having asked for some addresses and
having done nothing else. -/
def Flag.Halts (s : Surroundings) (f : Flag) (value : String) (halt : Halt)
    (addresses : List String) : Prop :=
  ∀ p : Progress, (useFlag s f value).run p =
    (.error halt, { p with addresses := p.addresses ++ addresses })

/-- **The reading ends at the first value that ends it.** -/
theorem read_halted (items : List Item) (spells : word ∈ f.spellings)
    (takes : f.takesValue = true) (kept : value ≠ "--")
    (form : given = [word, value] ∨ given = [word ++ "=" ++ value])
    (halts : f.Halts s value halt addresses) (back : List String) :
    ∃ request, read s (items.flatMap Item.words ++ (given ++ back)) =
      (.error halt, { request := request, addresses := addresses }) := by
  obtain ⟨request, gone, -⟩ := useSteps_of_adds (Item.adds_items (s := s) items) {}
  have last : (useStep s (.given f (some value))).run { request := request } =
      (.error halt, { request := request, addresses := addresses }) := by
    rw [useStep_of_kept kept]
    exact halts { request := request }
  refine ⟨request, ?_⟩
  rw [read, readWords, steps, promote, stepsFrom_items, stepsFrom_given spells takes value form,
    useSteps, List.forM_eq_forM, List.forM_append, List.forM_cons]
  have stopped := ExceptT.run_bind_of_error (f := fun _ =>
    (stepsFrom Flag.all none (promoteFrom none back)).forM (useStep s)) last
  exact ExceptT.run_bind_of_error ((ExceptT.run_bind_of_ok gone).trans stopped)

end CommandLine

namespace Session

open CommandLine

variable {w : World} {words : List String} {early : Request} {catalog : Catalog}
  {notices : List Notice} {progress : Progress}

theorem run_eq_withCatalog (glance : readEarly words = .ok early)
    (loaded : loadCatalog w early.onlineVoices = (.ok catalog, notices)) :
    run w words = withCatalog w early.verbose notices catalog words := by
  rw [run, glance]
  dsimp only
  rw [loaded]

theorem run_of_complaint {complaint : Complaint} (glance : readEarly words = .ok early)
    (loaded : loadCatalog w early.onlineVoices = (.ok catalog, notices))
    (ended : read (surroundings w catalog) words = (.error (.complaint complaint), progress)) :
    (run w words).ending = .ok 2 ∧
      (run w words).errors = noticeText early.verbose (notices ++ progress.notices) ++
        complaintText usageLines complaint := by
  rw [run_eq_withCatalog glance loaded, withCatalog, ended]
  exact ⟨rfl, rfl⟩

theorem run_of_failure {failure : CommandLine.Failure} (glance : readEarly words = .ok early)
    (loaded : loadCatalog w early.onlineVoices = (.ok catalog, notices))
    (ended : read (surroundings w catalog) words = (.error (.failure failure), progress)) :
    (run w words).ending = .error (.reading failure) := by
  rw [run_eq_withCatalog glance loaded, withCatalog, ended]
  rfl

end Session
end Recital
