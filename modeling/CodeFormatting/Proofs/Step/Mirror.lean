import CodeFormatting.Proofs.Step.Visits
import CodeFormatting.Step.Cache
namespace CodeFormatting

/-! A step of an observed world mirrors one of the world itself if its initializer and its
engine do. Then it answers every run in the same way. -/

variable {World Note : Type}

inductive Outcome.Mirrors : Outcome World → Outcome (Observed Note World) → Prop
  | error (error : StepError) : Mirrors (.error error) (.error error)
  | ok {engine : Engine World} {seen : Engine (Observed Note World)}
      (hengine : ∀ input, Observed.Mirrors Eq (engine input) (seen input)) :
      Mirrors (.ok engine) (.ok seen)

namespace Step

structure Mirrors (step : Step World) (seen : Step (Observed Note World)) : Prop where
  name : step.name = seen.name
  key : step.key = seen.key
  initializer : Observed.Mirrors Outcome.Mirrors step.initializer seen.initializer
  outcome : Option.Rel Outcome.Mirrors step.outcome seen.outcome

variable {step : Step World} {seen : Step (Observed Note World)}

theorem Mirrors.settled (hstep : step.Mirrors seen) {outcome : Outcome World}
    {seenOutcome : Outcome (Observed Note World)} (houtcome : outcome.Mirrors seenOutcome) :
    (step.settled outcome).Mirrors (seen.settled seenOutcome) :=
  ⟨hstep.name, hstep.key, hstep.initializer, .some houtcome⟩

theorem Mirrors.isInitialized (hstep : step.Mirrors seen) :
    step.isInitialized = seen.isInitialized := by
  have houtcome := hstep.outcome
  rw [Step.isInitialized, Step.isInitialized]
  generalize step.outcome = outcome, seen.outcome = seenOutcome at houtcome
  cases houtcome with
  | none => rfl
  | some => rfl

theorem Mirrors.resolve (hstep : step.Mirrors seen) :
    Observed.Mirrors (fun bare noted => Outcome.Mirrors bare.1 noted.1 ∧ bare.2.Mirrors noted.2)
      step.resolve seen.resolve := by
  have houtcome := hstep.outcome
  rcases hplain : step.outcome with _ | outcome <;> rcases hseen : seen.outcome with _ | noted <;>
    rw [hplain, hseen] at houtcome
  · simp only [Step.resolve, hplain, hseen]
    exact hstep.initializer.bind fun answer noted hsame =>
      Observed.mirrors_pure ⟨hsame, hstep.settled hsame⟩
  · cases houtcome
  · cases houtcome
  · cases houtcome with
    | some hsame =>
        simp only [Step.resolve, hplain, hseen]
        exact Observed.mirrors_pure ⟨hsame, hstep⟩

theorem mirrors_applied {outcome : Outcome World} {seenOutcome : Outcome (Observed Note World)}
    (houtcome : outcome.Mirrors seenOutcome) (input : String) :
    Observed.Mirrors Eq (applied outcome input) (applied seenOutcome input) := by
  cases houtcome with
  | error error => exact Observed.mirrors_pure rfl
  | ok hengine =>
      refine (hengine input).bind ?_
      rintro (error | output) _ rfl <;> exact Observed.mirrors_pure rfl

theorem Mirrors.format (hstep : step.Mirrors seen) (input : String) :
    Observed.Mirrors (fun bare noted => bare.1 = noted.1 ∧ bare.2.Mirrors noted.2)
      (step.format input) (seen.format input) := by
  refine hstep.resolve.bind ?_
  rintro ⟨outcome, after⟩ ⟨seenOutcome, seenAfter⟩ ⟨houtcome, hafter⟩
  refine (mirrors_applied houtcome input).bind ?_
  rintro result _ rfl
  exact Observed.mirrors_pure ⟨rfl, hafter⟩

theorem Mirrors.prepare (hstep : step.Mirrors seen) :
    Observed.Mirrors (fun bare noted => bare.1 = noted.1 ∧ bare.2.Mirrors noted.2)
      step.prepare seen.prepare := by
  refine hstep.resolve.bind ?_
  rintro ⟨outcome, after⟩ ⟨seenOutcome, seenAfter⟩ ⟨houtcome, hafter⟩
  refine Observed.mirrors_pure ⟨?_, hafter⟩
  cases houtcome with
  | error => rfl
  | ok => rfl

theorem Mirrors.perform (hstep : step.Mirrors seen) (call : Call) :
    Observed.Mirrors (fun bare noted => bare.1 = noted.1 ∧ bare.2.Mirrors noted.2)
      (step.perform call) (seen.perform call) := by
  cases call with
  | format input =>
      refine (hstep.format input).bind ?_
      rintro ⟨result, after⟩ ⟨_, seenAfter⟩ ⟨rfl, hafter⟩
      exact Observed.mirrors_pure ⟨rfl, hafter⟩
  | prepare =>
      refine hstep.prepare.bind ?_
      rintro ⟨result, after⟩ ⟨_, seenAfter⟩ ⟨rfl, hafter⟩
      exact Observed.mirrors_pure ⟨rfl, hafter⟩
  | isInitialized =>
      exact Observed.mirrors_pure ⟨congrArg Answer.flag hstep.isInitialized, hstep⟩
  | name => exact Observed.mirrors_pure ⟨congrArg Answer.text hstep.name, hstep⟩
  | key => exact Observed.mirrors_pure ⟨congrArg Answer.text hstep.key, hstep⟩

theorem Mirrors.visits (hstep : step.Mirrors seen) (calls : List Call) (world : World) :
    (seen.visits calls world).map Visit.answer = (Visit.run Step.perform step calls world).1.1 ∧
      (Visit.history Step.perform seen calls world).2 =
        (Visit.run Step.perform step calls world).2 := by
  have hcalls : List.Forall₂ Eq calls calls := List.forall₂_same.mpr fun _ _ => rfl
  have hperform : ∀ (step : Step World) (seen : Step (Observed Note World)) (call seenCall : Call),
      step.Mirrors seen → call = seenCall →
      Observed.Mirrors (fun bare noted => bare.1 = noted.1 ∧ bare.2.Mirrors noted.2)
        (step.perform call) (seen.perform seenCall) := by
    rintro step seen call _ hmirrors rfl
    exact hmirrors.perform call
  obtain ⟨hanswers, -, hworld⟩ :=
    Visit.answers_history_of_mirrors hperform hcalls hstep world
  exact ⟨hanswers, hworld⟩

end Step

/-! Stores mirror each other step by step. -/

theorem rel_getElem? {α β : Type} {Same : α → β → Prop} {left : List α} {right : List β}
    (hsame : List.Forall₂ Same left right) (index : Nat) :
    Option.Rel Same left[index]? right[index]? := by
  induction hsame generalizing index with
  | nil => exact .none
  | cons hhead htail induction =>
      cases index with
      | zero => exact .some hhead
      | succ index => simpa using induction index

theorem forall₂_set {α β : Type} {Same : α → β → Prop} {left : List α} {right : List β}
    (hsame : List.Forall₂ Same left right) (index : Nat) {first : α} {second : β}
    (hvalue : Same first second) :
    List.Forall₂ Same (left.set index first) (right.set index second) := by
  induction hsame generalizing index with
  | nil => exact .nil
  | cons hhead htail induction =>
      cases index with
      | zero => exact .cons hvalue htail
      | succ index => exact .cons hhead (induction index)

namespace StepStore

structure Mirrors (store : StepStore World) (seen : StepStore (Observed Note World)) : Prop where
  cached : store.cached = seen.cached
  steps : List.Forall₂ Step.Mirrors store.steps seen.steps

variable {store : StepStore World} {seen : StepStore (Observed Note World)}
  {step : Step World} {seenStep : Step (Observed Note World)}

theorem Mirrors.get? (hstore : store.Mirrors seen) (reference : Reference) :
    Option.Rel Step.Mirrors (store.get? reference) (seen.get? reference) :=
  rel_getElem? hstore.steps reference

theorem Mirrors.replace (hstore : store.Mirrors seen) (reference : Reference)
    (hstep : step.Mirrors seenStep) :
    (store.replace reference step).Mirrors (seen.replace reference seenStep) :=
  ⟨hstore.cached, forall₂_set hstore.steps reference hstep⟩

theorem Mirrors.getOrInsert (hstore : store.Mirrors seen) (hstep : step.Mirrors seenStep) :
    (store.getOrInsert step).1 = (seen.getOrInsert seenStep).1 ∧
      (store.getOrInsert step).2.Mirrors (seen.getOrInsert seenStep).2 := by
  have hidentity : step.identity = seenStep.identity := by
    rw [Step.identity, Step.identity, hstep.name, hstep.key]
  have hcached : store.cached? step.identity = seen.cached? seenStep.identity := by
    rw [cached?, cached?, hidentity, hstore.cached]
  simp only [StepStore.getOrInsert, hcached]
  cases seen.cached? seenStep.identity with
  | some reference => exact ⟨rfl, hstore⟩
  | none =>
      have hlength := hstore.steps.length_eq
      refine ⟨hlength, ?_, List.rel_append hstore.steps (.cons hstep .nil)⟩
      simp only [add, hlength, hidentity, hstore.cached]

end StepStore
end CodeFormatting
