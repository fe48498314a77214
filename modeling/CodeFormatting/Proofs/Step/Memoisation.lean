import CodeFormatting.Proofs.Step.Mirror
namespace CodeFormatting

/-! What an observer of a step notes: its initializer answering and its engine answering.
Where several steps are observed, the origin says which of them it was. -/

variable {Origin World : Type}

inductive Happening (Origin World : Type)
  | initialized (origin : Origin) (outcome : Outcome World)
  | applied (origin : Origin) (engine : Engine World) (input : String)
      (answer : Except EngineError String)

namespace Happening

def origin : Happening Origin World → Origin
  | initialized origin _ => origin
  | applied origin .. => origin

def outcome? : Happening Origin World → Option (Outcome World)
  | initialized _ outcome => some outcome
  | applied .. => none

def application? :
    Happening Origin World → Option (Engine World × String × Except EngineError String)
  | initialized .. => none
  | applied _ engine input answer => some (engine, input, answer)

end Happening

abbrev Watched (Origin World : Type) := Observed (Happening Origin World) World

def Engine.observed (origin : Origin) (engine : Engine World) :
    Engine (Watched Origin World) := fun input =>
  Observed.noted (.applied origin engine input) (engine input)

def Outcome.observed (origin : Origin) : Outcome World → Outcome (Watched Origin World)
  | .ok engine => .ok (Engine.observed origin engine)
  | .error error => .error error

def Initializer.observed (origin : Origin) (initializer : Initializer World) :
    StateM (Watched Origin World) (Outcome (Watched Origin World)) := do
  let outcome ← Observed.noted (Happening.initialized origin) initializer
  return Outcome.observed origin outcome

theorem Outcome.observed_adds (origin : Origin) (outcome : Outcome World) :
    Step.OutcomeAdds (Outcome.observed origin outcome) := by
  cases outcome with
  | ok engine => exact fun input => Observed.adds_noted _ _
  | error error => trivial

@[simp] theorem Initializer.collected_observed (origin : Origin)
    (initializer : Initializer World) (world : World) :
    Observed.collected (Initializer.observed origin initializer) world =
      ((Outcome.observed origin (initializer world).1,
        [Happening.initialized origin (initializer world).1]), (initializer world).2) := rfl

namespace Step

def observed (origin : Origin) (step : Step World) : Step (Watched Origin World) where
  name := step.name
  key := step.key
  initializer := Initializer.observed origin step.initializer
  outcome := step.outcome.map (Outcome.observed origin)

@[simp] theorem isInitialized_observed (origin : Origin) (step : Step World) :
    (step.observed origin).isInitialized = step.isInitialized :=
  Option.isSome_map

/-! An observer changes nothing: a call of an observed step is the call of the step. -/

theorem mirrors_outcome_observed (origin : Origin) (outcome : Outcome World) :
    outcome.Mirrors (Outcome.observed origin outcome) := by
  cases outcome with
  | error error => exact .error error
  | ok engine => exact .ok fun input => Observed.mirrors_noted _ _

theorem mirrors_observed (origin : Origin) (step : Step World) :
    step.Mirrors (step.observed origin) where
  name := rfl
  key := rfl
  initializer := fun _ => ⟨mirrors_outcome_observed origin _, rfl⟩
  outcome := by
    rw [observed]
    cases step.outcome with
    | none => exact .none
    | some outcome => exact .some (mirrors_outcome_observed origin outcome)

theorem collected_reply_observed (origin : Origin) (step : Step World) (outcome : Outcome World)
    (call : Call) (world : World) :
    ∃ own, Observed.collected
        ((step.observed origin).reply (Outcome.observed origin outcome) call) world =
        (((step.reply outcome call world).1, own), (step.reply outcome call world).2) ∧
      ∀ note ∈ own, note.origin = origin ∧ note.outcome? = none := by
  cases call with
  | format input =>
      cases outcome with
      | ok engine =>
          rw [Outcome.observed, reply_format_ok, reply_format_ok]
          refine ⟨[.applied origin engine input (engine input world).1], rfl, ?_⟩
          simp [Happening.origin, Happening.outcome?]
      | error error => exact ⟨[], rfl, by simp⟩
  | prepare => cases outcome <;> exact ⟨[], rfl, by simp⟩
  | isInitialized =>
      refine ⟨[], ?_, by simp⟩
      rw [reply, isInitialized_observed]
      rfl
  | name => exact ⟨[], rfl, by simp⟩
  | key => exact ⟨[], rfl, by simp⟩

/-- The opening note is there exactly if the call is the one that settles the step. -/
theorem collected_perform_observed (origin : Origin) (step : Step World) (call : Call)
    (world : World) :
    ∃ opening own, Observed.collected ((step.observed origin).perform call) world =
        ((((step.perform call world).1.1, (step.perform call world).1.2.observed origin),
          opening ++ own), (step.perform call world).2) ∧
      (∀ note ∈ own, note.origin = origin ∧ note.outcome? = none) ∧
      (opening = [] ∧ (step.perform call world).1.2 = step ∨
        step.outcome = none ∧ ∃ outcome, opening = [.initialized origin outcome] ∧
          (step.perform call world).1.2 = step.settled outcome) := by
  rcases houtcome : step.outcome with _ | outcome
  · cases hcall : call.initializes with
    | false =>
        cases call with
        | format input => contradiction
        | prepare => contradiction
        | isInitialized =>
            refine ⟨[], [], ?_, by simp, .inl ⟨rfl, rfl⟩⟩
            rw [perform, isInitialized_observed]
            rfl
        | name => exact ⟨[], [], rfl, by simp, .inl ⟨rfl, rfl⟩⟩
        | key => exact ⟨[], [], rfl, by simp, .inl ⟨rfl, rfl⟩⟩
    | true =>
        obtain ⟨own, hreply, hown⟩ := collected_reply_observed origin
          (step.settled (step.initializer world).1) (step.initializer world).1 call
          (step.initializer world).2
        refine ⟨[.initialized origin (step.initializer world).1], own, ?_, hown,
          .inr ⟨rfl, _, rfl, ?_⟩⟩
        · rw [perform_of_initializes houtcome hcall]
          refine collected_perform_of_initializes ?_ hcall
            (Initializer.collected_observed origin step.initializer world)
            (Outcome.observed_adds _ _) hreply
          rw [observed, houtcome]
          rfl
        · rw [perform_of_initializes houtcome hcall]
          rfl
  · have hplain : step.perform call world =
        (((step.reply outcome call world).1, step), (step.reply outcome call world).2) := by
      rw [perform_of_outcome houtcome]
      rfl
    have hsettled : (step.observed origin).outcome = some (Outcome.observed origin outcome) := by
      rw [observed, houtcome]
      rfl
    obtain ⟨own, hreply, hown⟩ := collected_reply_observed origin step outcome call world
    refine ⟨[], own, ?_, hown, .inl ⟨rfl, by rw [hplain]⟩⟩
    rw [hplain, collected_perform_of_outcome hsettled, hreply]
    rfl

/-! The initializer of a step runs at the first call that needs its outcome, and at no
other. -/

variable {Note : Type}

abbrev WatchedVisit (Origin World : Type) :=
  Visit (Step (Watched Origin World)) Call Answer (Happening Origin World)

/-- What the initializer answered during a visit, each time that it ran. -/
def initializations (visit : WatchedVisit Origin World) : List (Outcome World) :=
  visit.notes.filterMap Happening.outcome?

/-- What the engine was asked and answered during a visit. -/
def applications (visit : WatchedVisit Origin World) :
    List (Engine World × String × Except EngineError String) :=
  visit.notes.filterMap Happening.application?

/-- A visit is served by an outcome: an engine formats and its error is passed on, an error
of the initializer is the answer of its own. Nothing else has an engine answer. -/
def Served (outcome : Outcome World) (visit : WatchedVisit Origin World) : Prop :=
  match outcome, visit.call with
  | .ok engine, .format input =>
    ∃ now, applications visit = [(engine, input, (engine input now).1)] ∧
      visit.answer = .formatted ((engine input now).1.mapError .delegate)
  | .ok _, .prepare => applications visit = [] ∧ visit.answer = .prepared (.ok ())
  | .error error, .format _ =>
    applications visit = [] ∧ visit.answer = .formatted (.error (.initialization error))
  | .error error, .prepare =>
    applications visit = [] ∧ visit.answer = .prepared (.error (.initialization error))
  | _, _ => applications visit = []

theorem served_of_reply {step : Step (Watched Origin World)} {origin : Origin}
    {outcome : Outcome World} {visit : WatchedVisit Origin World} {now : World}
    {own : List (Happening Origin World)}
    (hreply : (Observed.collected (step.reply (Outcome.observed origin outcome) visit.call)
      now).1 = (visit.answer, own))
    (hnotes : applications visit = own.filterMap Happening.application?) :
    own.filterMap Happening.outcome? = [] ∧ Served outcome visit := by
  rcases visit with ⟨call, before, answer, notes, after⟩
  cases call with
  | format input =>
      cases outcome with
      | ok engine =>
          rw [Outcome.observed, reply_format_ok] at hreply
          cases hreply
          exact ⟨rfl, now, hnotes, rfl⟩
      | error error =>
          cases hreply
          exact ⟨rfl, hnotes, rfl⟩
  | prepare => cases outcome <;> cases hreply <;> exact ⟨rfl, hnotes, rfl⟩
  | isInitialized => cases outcome <;> cases hreply <;> exact ⟨rfl, hnotes⟩
  | name => cases outcome <;> cases hreply <;> exact ⟨rfl, hnotes⟩
  | key => cases outcome <;> cases hreply <;> exact ⟨rfl, hnotes⟩

theorem flatMap_eq_of_getElem? {α β : Type} {list : List α} {f : α → List β} {first : Nat}
    {value : β}
    (hvalues : ∀ index element, list[index]? = some element →
      f element = if index = first then [value] else []) :
    list.flatMap f = if first < list.length then [value] else [] := by
  induction list generalizing first with
  | nil => simp
  | cons head tail induction =>
      have hhead := hvalues 0 head rfl
      cases first with
      | zero =>
          have htail : tail.flatMap f = [] := by
            rw [List.flatMap_eq_nil_iff]
            intro element hmem
            obtain ⟨index, hindex⟩ := List.getElem?_of_mem hmem
            simpa using hvalues (index + 1) element (by simpa using hindex)
          simp [hhead, htail]
      | succ first =>
          have htail : tail.flatMap f = if first < tail.length then [value] else [] :=
            induction fun index element hindex => by
              simpa using hvalues (index + 1) element (by simpa using hindex)
          simp [hhead, htail]

/-- What holds of a visit of a step that was not initialized before the run, where `first` is
the place of the first call that needs the outcome. -/
structure Memoised (step : Step World) (origin : Origin) (outcome : Outcome World)
    (first index : Nat) (visit : WatchedVisit Origin World) : Prop where
  initializations : initializations visit = if index = first then [outcome] else []
  served : Served outcome visit
  before : visit.before = (if index ≤ first then step else step.settled outcome).observed origin
  after : visit.after = (if index < first then step else step.settled outcome).observed origin
  isInitialized : visit.after.isInitialized = decide (first ≤ index)
  identity : visit.after.identity = step.identity
  flag : visit.call = .isInitialized → visit.answer = .flag (decide (first ≤ index))
  name : visit.call = .name → visit.answer = .text step.name
  key : visit.call = .key → visit.answer = .text step.key

theorem memoised_of_follows {step : Step World} (hfresh : step.outcome = none)
    {origin : Origin} {outcome : Outcome World} {first index : Nat}
    {visit : WatchedVisit Origin World}
    (hfollows : Follows (step.observed origin) (Outcome.observed origin outcome)
      [.initialized origin outcome] first index visit) :
    Memoised step origin outcome first index visit := by
  obtain ⟨hbefore, hafter, now, own, hreply, hnotes⟩ := hfollows
  have happlications : applications visit = own.filterMap Happening.application? := by
    rw [applications, hnotes, List.filterMap_append]
    split <;> rfl
  obtain ⟨hown, hserved⟩ := served_of_reply hreply happlications
  have hidentity : visit.after.identity = step.identity := by
    rw [hafter]
    split <;> rfl
  have hflag : visit.after.isInitialized = decide (first ≤ index) := by
    rw [hafter]
    by_cases hindex : index < first
    · rw [if_pos hindex, isInitialized_observed, Step.isInitialized, hfresh]
      simp [hindex]
    · simp [hindex, Nat.not_lt.mp hindex]
  -- A call that only looks at the step answers what is to be seen after it.
  have hlook : ∀ {call : Call}, visit.call = call → (Observed.collected
      (visit.after.reply (Outcome.observed origin outcome) call) now).1.1 = visit.answer := by
    rintro call rfl
    rw [hreply]
  refine ⟨?_, hserved, ?_, ?_, hflag, hidentity, ?_, ?_, ?_⟩
  · rw [Step.initializations, hnotes, List.filterMap_append, hown]
    split <;> rfl
  · rw [hbefore]
    split <;> rfl
  · rw [hafter]
    split <;> rfl
  · intro hcall
    rw [← hlook hcall, ← hflag]
    rfl
  · intro hcall
    rw [← hlook hcall]
    exact congrArg (fun identity => Answer.text identity.1) hidentity
  · intro hcall
    rw [← hlook hcall]
    exact congrArg (fun identity => Answer.text identity.2) hidentity

/-- Over every run of a step that was made, the initializer answers once if a call needs its
outcome, during the first such call, and never otherwise. That outcome serves every call
from there on, and being observed changes no answer. -/
theorem memoised_run {name : String} {state : StepState} {initializer : Initializer World}
    {step : Step World} (hcreated : create name state initializer = .ok step)
    (origin : Origin) (calls : List Call) (world : World) :
    let outcome := (initializer world).1
    let visits := (step.observed origin).visits calls world
    visits.map Visit.call = calls ∧
    visits.map Visit.answer = (Visit.run perform step calls world).1.1 ∧
    visits.flatMap initializations =
      (if calls.any Call.initializes then [outcome] else []) ∧
    ∀ index visit, visits[index]? = some visit →
      Memoised step origin outcome (calls.findIdx Call.initializes) index visit := by
  intro outcome visits
  obtain ⟨-, key, -, rfl⟩ := create_eq_ok_iff.mp hcreated
  have hmemoised : ∀ index visit, visits[index]? = some visit →
      Memoised _ origin outcome (calls.findIdx Call.initializes) index visit :=
    fun index visit hvisit => memoised_of_follows rfl
      (follows_of_getElem? rfl (Initializer.collected_observed origin initializer world)
        (Outcome.observed_adds origin outcome) hvisit)
  have hcalls : visits.map Visit.call = calls := Visit.calls_history _ _ _ _
  have hlength : visits.length = calls.length := by
    rw [← hcalls, List.length_map]
  refine ⟨hcalls, ((mirrors_observed origin _).visits calls world).1, ?_, hmemoised⟩
  rw [flatMap_eq_of_getElem? fun index visit hvisit =>
    (hmemoised index visit hvisit).initializations]
  simp only [hlength, List.findIdx_lt_length, List.any_eq_true]

/-- An initializer that answers with an engine the first time it runs and with an error from
then on. -/
def succeedsOnce : Initializer Nat := fun runs =>
  (if runs = 0 then .ok fun input runs => (.ok input, runs) else .error (.configuration ""),
    runs + 1)

theorem memoised_run_of_succeedsOnce :
    let calls : List Call := [.name, .format "a", .prepare, .format "b"]
    ∃ step, create "upper" (.ok "1") succeedsOnce = .ok step ∧
      ((step.observed ()).visits calls 0).flatMap initializations = [(succeedsOnce 0).1] ∧
      ((step.observed ()).visits calls 0).map Visit.answer =
        [.text "upper", .formatted (.ok "a"), .prepared (.ok ()), .formatted (.ok "b")] := by
  intro calls
  have hcreated : create "upper" (.ok "1") succeedsOnce =
    .ok ⟨"upper", "1", succeedsOnce, none⟩ := rfl
  exact ⟨_, hcreated, (memoised_run hcreated () calls 0).2.2.1, rfl⟩

end Step
end CodeFormatting
