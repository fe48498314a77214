import CodeFormatting.Proofs.Observed
import CodeFormatting.Step.Basic
namespace CodeFormatting

/-! The calls of a step. Those that format or prepare need the outcome of the initializer;
the others only look at the step. A whole run is settled by the first call that needs the
outcome: what the initializer answers there, every later call goes by. -/

variable {World : Type}

abbrev Outcome (World : Type) := Except StepError (Engine World)

namespace Step

inductive Call
  | format (input : String)
  | prepare
  | isInitialized
  | name
  | key
  deriving DecidableEq, Repr

inductive Answer
  | formatted (result : Except FormatError String)
  | prepared (result : Except FormatError Unit)
  | flag (value : Bool)
  | text (value : String)

def Call.initializes : Call → Bool
  | .format _ | .prepare => true
  | .isInitialized | .name | .key => false

def perform (step : Step World) : Call → StateM World (Answer × Step World)
  | .format input => do
    let (result, step) ← step.format input
    return (.formatted result, step)
  | .prepare => do
    let (result, step) ← step.prepare
    return (.prepared result, step)
  | .isInitialized => return (.flag step.isInitialized, step)
  | .name => return (.text step.name, step)
  | .key => return (.text step.key, step)

/-- What a call answers once the initializer has come to an outcome. -/
def reply (step : Step World) (outcome : Outcome World) : Call → StateM World Answer
  | .format input => do return .formatted (← applied outcome input)
  | .prepare =>
    return .prepared (match outcome with
      | .ok _ => .ok ()
      | .error error => .error (.initialization error))
  | .isInitialized => return .flag step.isInitialized
  | .name => return .text step.name
  | .key => return .text step.key

theorem create_eq_ok_iff {name : String} {state : StepState} {initializer : Initializer World}
    {step : Step World} :
    create name state initializer = .ok step ↔
      Text.isBlankText name = false ∧
        ∃ key, state = .ok key ∧ step = { name, key, initializer, outcome := none } := by
  unfold create
  cases hblank : Text.isBlankText name <;> cases state <;> simp [eq_comm]

@[simp] theorem isInitialized_settled (step : Step World) (outcome : Outcome World) :
    (step.settled outcome).isInitialized = true := rfl

theorem reply_format_ok (step : Step World) (engine : Engine World) (input : String) :
    step.reply (.ok engine) (.format input) = do
      let answer ← engine input
      return .formatted (answer.mapError .delegate) := by
  funext world
  simp only [reply, applied, bind, StateT.bind]
  rcases engine input world with ⟨error | output, next⟩ <;> rfl

theorem perform_of_outcome {step : Step World} {outcome : Outcome World}
    (hsettled : step.outcome = some outcome) (call : Call) :
    step.perform call = do return (← step.reply outcome call, step) := by
  cases call with
  | format input =>
      simp only [perform, Step.format, resolve, hsettled]
      rfl
  | prepare =>
      simp only [perform, prepare, resolve, hsettled]
      rfl
  | isInitialized => rfl
  | name => rfl
  | key => rfl

theorem perform_of_initializes {step : Step World} (hfresh : step.outcome = none)
    {call : Call} (hcall : call.initializes) :
    step.perform call = do
      let outcome ← step.initializer
      let answer ← (step.settled outcome).reply outcome call
      return (answer, step.settled outcome) := by
  cases call with
  | format input =>
      simp only [perform, Step.format, resolve, hfresh]
      rfl
  | prepare =>
      simp only [perform, prepare, resolve, hfresh]
      rfl
  | isInitialized => contradiction
  | name => contradiction
  | key => contradiction

/-! Runs over observed worlds. -/

variable {Note : Type}

/-- What is noted of an engine, if there is one, is only added to earlier notes. -/
def OutcomeAdds : Outcome (Observed Note World) → Prop
  | .ok engine => ∀ input, Observed.Adds (engine input)
  | .error _ => True

theorem reply_adds (step : Step (Observed Note World))
    {outcome : Outcome (Observed Note World)} (hadds : OutcomeAdds outcome) (call : Call) :
    Observed.Adds (step.reply outcome call) := by
  cases call with
  | format input =>
      cases outcome with
      | error error => exact Observed.adds_pure _
      | ok engine =>
          refine Observed.Adds.bind (Observed.Adds.bind (hadds input) ?_)
            fun _ => Observed.adds_pure _
          rintro (error | output) <;> exact Observed.adds_pure _
  | prepare => exact Observed.adds_pure _
  | isInitialized => exact Observed.adds_pure _
  | name => exact Observed.adds_pure _
  | key => exact Observed.adds_pure _

def visits (step : Step (Observed Note World)) (calls : List Call) (world : World) :
    List (Visit (Step (Observed Note World)) Call Answer Note) :=
  (Visit.history perform step calls world).1.1

theorem visits_cons {step after : Step (Observed Note World)} {call : Call}
    {answer : Answer} {notes : List Note} {world next : World}
    (hcall : Observed.collected (step.perform call) world = (((answer, after), notes), next))
    (rest : List Call) :
    step.visits (call :: rest) world =
      ⟨call, step, answer, notes, after⟩ :: after.visits rest next := by
  simp only [visits, Visit.history_cons hcall]

theorem collected_perform_of_outcome {step : Step (Observed Note World)}
    {outcome : Outcome (Observed Note World)} (hsettled : step.outcome = some outcome)
    (call : Call) (world : World) :
    Observed.collected (step.perform call) world =
      (let ((answer, notes), next) := Observed.collected (step.reply outcome call) world
      (((answer, step), notes), next)) := by
  rw [perform_of_outcome hsettled]
  rfl

theorem collected_perform_of_not_initializes (step : Step (Observed Note World))
    (outcome : Outcome (Observed Note World)) {call : Call}
    (hcall : call.initializes = false) (world : World) :
    ∃ answer, Observed.collected (step.perform call) world = (((answer, step), []), world) ∧
      Observed.collected (step.reply outcome call) world = ((answer, []), world) := by
  cases call with
  | format input => contradiction
  | prepare => contradiction
  | isInitialized => exact ⟨_, rfl, rfl⟩
  | name => exact ⟨_, rfl, rfl⟩
  | key => exact ⟨_, rfl, rfl⟩

theorem notes_eq_nil_of_mem_visits {step : Step (Observed Note World)} {calls : List Call}
    (hlooks : ∀ call ∈ calls, call.initializes = false) {world : World}
    {visit : Visit (Step (Observed Note World)) Call Answer Note}
    (hvisit : visit ∈ step.visits calls world) : visit.notes = [] := by
  induction calls with
  | nil => cases hvisit
  | cons call rest induction =>
      rw [List.forall_mem_cons] at hlooks
      obtain ⟨answer, hperform, -⟩ := collected_perform_of_not_initializes step
        (.error (.configuration "")) hlooks.1 world
      rw [visits_cons hperform] at hvisit
      rcases List.mem_cons.mp hvisit with rfl | hrest
      · rfl
      · exact induction hlooks.2 hrest

theorem collected_perform_of_initializes {step : Step (Observed Note World)}
    (hfresh : step.outcome = none) {call : Call} (hcall : call.initializes)
    {outcome : Outcome (Observed Note World)} {opening own : List Note}
    {world after next : World} {answer : Answer}
    (hinitializer : Observed.collected step.initializer world = ((outcome, opening), after))
    (hadds : OutcomeAdds outcome)
    (hreply : Observed.collected ((step.settled outcome).reply outcome call) after =
      ((answer, own), next)) :
    Observed.collected (step.perform call) world =
      (((answer, step.settled outcome), opening ++ own), next) := by
  rw [perform_of_initializes hfresh hcall]
  refine Observed.collected_bind hinitializer ?_
    ((reply_adds _ hadds call).bind fun _ => Observed.adds_pure _)
  rw [← List.append_nil own]
  exact Observed.collected_bind hreply rfl (Observed.adds_pure _)

/-- What holds of a visit of a step that was not initialized before the run. The first call
that needs the outcome also runs the initializer, which leaves the opening notes. -/
structure Follows (step : Step (Observed Note World)) (outcome : Outcome (Observed Note World))
    (opening : List Note) (first index : Nat)
    (visit : Visit (Step (Observed Note World)) Call Answer Note) : Prop where
  before : visit.before = if index ≤ first then step else step.settled outcome
  after : visit.after = if index < first then step else step.settled outcome
  reply : ∃ (now : World) (own : List Note),
    (Observed.collected (visit.after.reply outcome visit.call) now).1 = (visit.answer, own) ∧
      visit.notes = (if index = first then opening else []) ++ own

theorem mem_visits_of_outcome {step : Step (Observed Note World)}
    {outcome : Outcome (Observed Note World)} (hsettled : step.outcome = some outcome)
    {calls : List Call} {world : World}
    {visit : Visit (Step (Observed Note World)) Call Answer Note}
    (hvisit : visit ∈ step.visits calls world) :
    visit.before = step ∧ visit.after = step ∧
      ∃ now : World, (Observed.collected (step.reply outcome visit.call) now).1 =
        (visit.answer, visit.notes) := by
  induction calls generalizing world with
  | nil => cases hvisit
  | cons call rest induction =>
      rw [visits_cons (collected_perform_of_outcome hsettled call world)] at hvisit
      rcases List.mem_cons.mp hvisit with rfl | hrest
      · exact ⟨rfl, rfl, world, rfl⟩
      · exact induction hrest

theorem follows_of_getElem? {step : Step (Observed Note World)} (hfresh : step.outcome = none)
    {outcome : Outcome (Observed Note World)} {opening : List Note} {world after : World}
    (hinitializer : Observed.collected step.initializer world = ((outcome, opening), after))
    (hadds : OutcomeAdds outcome) {calls : List Call} {index : Nat}
    {visit : Visit (Step (Observed Note World)) Call Answer Note}
    (hvisit : (step.visits calls world)[index]? = some visit) :
    Follows step outcome opening (calls.findIdx Call.initializes) index visit := by
  induction calls generalizing index with
  | nil => cases hvisit
  | cons call rest induction =>
      cases hcall : call.initializes with
      | false =>
          obtain ⟨answer, hperform, hreply⟩ :=
            collected_perform_of_not_initializes step outcome hcall world
          rw [visits_cons hperform] at hvisit
          have hfirst : (call :: rest).findIdx Call.initializes =
              rest.findIdx Call.initializes + 1 := by
            simp [List.findIdx_cons, hcall]
          rw [hfirst]
          cases index with
          | zero =>
              cases hvisit
              exact ⟨by simp, by simp, world, [], by simp [hreply], by simp⟩
          | succ index =>
              obtain ⟨hbefore, hafter, now, own, hown, hnotes⟩ :=
                induction (by simpa using hvisit)
              exact ⟨by simpa using hbefore, by simpa using hafter, now, own, hown,
                by simpa using hnotes⟩
      | true =>
          rcases hreply : Observed.collected ((step.settled outcome).reply outcome call) after
            with ⟨⟨answer, own⟩, next⟩
          rw [visits_cons (collected_perform_of_initializes hfresh hcall hinitializer hadds
            hreply)] at hvisit
          have hfirst : (call :: rest).findIdx Call.initializes = 0 := by
            simp [List.findIdx_cons, hcall]
          rw [hfirst]
          cases index with
          | zero =>
              cases hvisit
              exact ⟨by simp, by simp, after, own, by simp [hreply], by simp⟩
          | succ index =>
              have hmem : visit ∈ (step.settled outcome).visits rest next :=
                List.mem_of_getElem? (by simpa using hvisit)
              obtain ⟨hbefore, hafter, now, hown⟩ := mem_visits_of_outcome rfl hmem
              exact ⟨by simpa using hbefore, by simpa using hafter, now, visit.notes,
                by rw [hafter, hown], by simp⟩

end Step
end CodeFormatting
