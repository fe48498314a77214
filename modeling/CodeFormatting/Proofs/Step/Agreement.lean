import CodeFormatting.Proofs.Step.Threads
namespace CodeFormatting

variable {World : Type}

def StepStore.observed {Origin : Type} (origin : Origin) (store : StepStore World) :
    StepStore (Watched Origin World) where
  steps := store.steps.map (Step.observed origin)
  cached := store.cached

namespace Threads

/-! Threads whose steps have one identity come to share one object. It is the step that was
cached for that identity before, or else the step of the thread that acts first. -/

inductive Inserter
  | earlier
  | thread (index : Nat)
  deriving DecidableEq

def Task.observed (index : Nat) (task : Task World) : Task (Watched Inserter World) where
  step := task.step.observed (.thread index)
  input := task.input

def resident (store : StepStore World) (identity : Step.Identity) :
    Option (Inserter × Step World) :=
  (store.cached? identity).bind fun reference =>
    (store.get? reference).map fun step => (.earlier, step)

def candidate (tasks : List (Task World)) (index : Nat) : Option (Inserter × Step World) :=
  tasks[index]?.map fun task => (.thread index, task.step)

/-- The steps of the threads are new and have one identity. -/
def Alike (tasks : List (Task World)) (identity : Step.Identity) : Prop :=
  ∀ (index : Nat) (task : Task World), tasks[index]? = some task →
    task.step.identity = identity ∧ task.step.outcome = none

/-- A thread has not seen the outcome of the shared step yet. -/
inductive Waiting (tasks : List (Task World)) (shared : Option Reference) (index : Nat) :
    Stage (Watched Inserter World) → Prop
  | arriving {task : Task World} (htask : tasks[index]? = some task) :
      Waiting tasks shared index (.arriving (task.step.observed (.thread index)))
  | holding {reference : Reference} (hshared : shared = some reference) :
      Waiting tasks shared index (.holding reference)

/-- The result is what the engine of an outcome answered to the input, or its error. -/
def Answered (source : Inserter) (outcome : Outcome World)
    (notes : List (Happening Inserter World)) (input : String)
    (result : Except FormatError String) : Prop :=
  match outcome with
  | .ok engine =>
    ∃ now, .applied source engine input (engine input now).1 ∈ notes ∧
      result = (engine input now).1.mapError .delegate
  | .error error => result = .error (.initialization error)

inductive Concluded (source : Inserter) (outcome : Outcome World)
    (notes : List (Happening Inserter World)) (input : String) :
    Stage (Watched Inserter World) → Prop
  | resolved : Concluded source outcome notes input (.resolved (Outcome.observed source outcome))
  | finished {result : Except FormatError String}
      (hanswered : Answered source outcome notes input result) :
      Concluded source outcome notes input (.finished result)

/-- What is noted where a step comes to its outcome, which it may have had before. -/
inductive Opening (source : Inserter) (step : Step World) (outcome : Outcome World) :
    List (Happening Inserter World) → Prop
  | kept (hsettled : step.outcome = some outcome) : Opening source step outcome []
  | run (hfresh : step.outcome = none) {now : World}
      (houtcome : (step.initializer now).1 = outcome) :
      Opening source step outcome [.initialized source outcome]

/-- Only the engine of the outcome answered. -/
def Applied (source : Inserter) (outcome : Outcome World)
    (notes : List (Happening Inserter World)) : Prop :=
  ∀ note ∈ notes, ∃ engine input answer,
    outcome = .ok engine ∧ note = .applied source engine input answer

theorem applied_nil {source : Inserter} {outcome : Outcome World} :
    Applied source outcome [] := by
  intro note hnote
  cases hnote

theorem Applied.concat {source : Inserter} {engine : Engine World}
    {notes : List (Happening Inserter World)} (hnotes : Applied source (.ok engine) notes)
    (input : String) (answer : Except EngineError String) :
    Applied source (.ok engine) (notes ++ [.applied source engine input answer]) := by
  intro note hnote
  rcases List.mem_append.mp hnote with hearlier | hnew
  · exact hnotes note hearlier
  · exact ⟨engine, input, answer, rfl, List.mem_singleton.mp hnew⟩

/-- The phases of a system, by what has become of the shared step. -/
inductive Phase (tasks : List (Task World)) (identity : Step.Identity) :
    Option (Inserter × Step World) → System (Watched Inserter World) →
      List (Happening Inserter World) → Prop
  | absent {store : StepStore (Watched Inserter World)}
      {threads : List (Thread (Watched Inserter World))}
      (habsent : store.cached? identity = none)
      (hthreads : ∀ index thread, threads[index]? = some thread →
        Waiting tasks none index thread.stage) :
      Phase tasks identity none ⟨⟨store, []⟩, threads⟩ []
  | idle {source : Inserter} {step : Step World} {reference : Reference}
      {store : StepStore (Watched Inserter World)}
      {threads : List (Thread (Watched Inserter World))}
      (hcached : store.cached? identity = some reference)
      (hobject : store.get? reference = some (step.observed source))
      (hfresh : step.outcome = none)
      (hthreads : ∀ index thread, threads[index]? = some thread →
        Waiting tasks (some reference) index thread.stage) :
      Phase tasks identity (some (source, step)) ⟨⟨store, []⟩, threads⟩ []
  | running {source : Inserter} {step : Step World} {reference : Reference} {runner : Nat}
      {input : String} {store : StepStore (Watched Inserter World)}
      {threads : List (Thread (Watched Inserter World))}
      (hcached : store.cached? identity = some reference)
      (hobject : store.get? reference = some (step.observed source))
      (hfresh : step.outcome = none)
      (hrunner : threads[runner]? = some ⟨input, .initializing reference⟩)
      (hothers : ∀ index thread, threads[index]? = some thread → index ≠ runner →
        Waiting tasks (some reference) index thread.stage) :
      Phase tasks identity (some (source, step)) ⟨⟨store, [reference]⟩, threads⟩ []
  | settled {source : Inserter} {step : Step World} {reference : Reference}
      {outcome : Outcome World} {opening answers : List (Happening Inserter World)}
      {store : StepStore (Watched Inserter World)}
      {threads : List (Thread (Watched Inserter World))}
      (hcached : store.cached? identity = some reference)
      (hobject : store.get? reference = some ((step.settled outcome).observed source))
      (hopening : Opening source step outcome opening)
      (hanswers : Applied source outcome answers)
      (hthreads : ∀ index thread, threads[index]? = some thread →
        Waiting tasks (some reference) index thread.stage ∨
          Concluded source outcome (opening ++ answers) thread.input thread.stage) :
      Phase tasks identity (some (source, step)) ⟨⟨store, []⟩, threads⟩ (opening ++ answers)

/-! Each action of a thread keeps the phase or leads to the next one. -/

theorem forall_set {threads : List (Thread World)} {Holds : Nat → Thread World → Prop}
    {index : Nat} {thread : Thread World}
    (hothers : ∀ other resting, other ≠ index → threads[other]? = some resting →
      Holds other resting)
    (hthread : Holds index thread) :
    ∀ other resting, (threads.set index thread)[other]? = some resting → Holds other resting := by
  intro other resting hresting
  by_cases heq : index = other
  · subst heq
    rw [List.getElem?_set_self' ] at hresting
    obtain ⟨-, -, rfl⟩ := Option.map_eq_some_iff.mp hresting
    exact hthread
  · rw [List.getElem?_set_ne heq] at hresting
    exact hothers other resting (Ne.symm heq) hresting

theorem Waiting.of_none {tasks : List (Task World)} {index : Nat}
    {stage : Stage (Watched Inserter World)} (hwaiting : Waiting tasks none index stage)
    (shared : Option Reference) : Waiting tasks shared index stage := by
  cases hwaiting with
  | arriving htask => exact .arriving htask
  | holding hshared => cases hshared

theorem Concluded.append {source : Inserter} {outcome : Outcome World}
    {notes : List (Happening Inserter World)} {input : String}
    {stage : Stage (Watched Inserter World)}
    (hconcluded : Concluded source outcome notes input stage)
    (later : List (Happening Inserter World)) :
    Concluded source outcome (notes ++ later) input stage := by
  cases hconcluded with
  | resolved => exact .resolved
  | finished hanswered =>
      cases outcome with
      | ok engine =>
          obtain ⟨now, hnote, hresult⟩ := hanswered
          exact .finished ⟨now, List.mem_append_left later hnote, hresult⟩
      | error error => exact .finished hanswered

theorem applied_observed_ok (source : Inserter) (engine : Engine World) (input : String)
    (world : World) (notes : List (Happening Inserter World)) :
    Step.applied (Outcome.observed source (.ok engine)) input ⟨world, notes⟩ =
      ((engine input world).1.mapError .delegate,
        ⟨(engine input world).2,
          notes ++ [.applied source engine input (engine input world).1]⟩) := by
  have hnoted : Engine.observed source engine input ⟨world, notes⟩ =
      ((engine input world).1,
        ⟨(engine input world).2,
          notes ++ [.applied source engine input (engine input world).1]⟩) := rfl
  simp only [Step.applied, Outcome.observed, bind, StateT.bind, hnoted]
  rcases (engine input world).1 with error | output <;> rfl

variable {tasks : List (Task World)} {identity : Step.Identity} {source : Inserter}
  {step : Step World} {reference : Reference} {store : StepStore (Watched Inserter World)}
  {threads : List (Thread (Watched Inserter World))} {index : Nat} {input : String}
  {stage : Stage (Watched Inserter World)}

/-- A step that is handed in where its identity is cached gives the cached handle. -/
theorem act_arriving_of_cached (halike : Alike tasks identity) {task : Task World}
    (hcached : store.cached? identity = some reference) (htask : tasks[index]? = some task)
    (input : String) (claimed : List Reference) (world : Watched Inserter World) :
    Thread.act ⟨input, .arriving (task.step.observed (.thread index))⟩ ⟨store, claimed⟩ world =
      ((.holding reference, ⟨store, claimed⟩), world) := by
  rw [← (halike index task htask).1] at hcached
  have hfound : store.getOrInsert (task.step.observed (.thread index)) = _ :=
    StepStore.getOrInsert_of_cached hcached
  rw [act_arriving, hfound]

theorem Phase.advance_absent (halike : Alike tasks identity)
    (hthread : threads[index]? = some ⟨input, stage⟩)
    (habsent : store.cached? identity = none)
    (hthreads : ∀ index thread, threads[index]? = some thread →
      Waiting tasks none index thread.stage) (world : World) :
    let after := System.advance ⟨⟨store, []⟩, threads⟩ index ⟨world, []⟩
    Phase tasks identity (candidate tasks index) after.1 after.2.notes := by
  intro after
  cases hthreads index _ hthread with
  | holding hshared => cases hshared
  | @arriving task htask =>
      obtain ⟨hidentity, hfresh⟩ := halike index task htask
      rw [← hidentity] at habsent
      have hadded : store.getOrInsert (task.step.observed (.thread index)) = _ :=
        StepStore.getOrInsert_of_absent habsent
      have hact := act_arriving input (task.step.observed (.thread index)) store []
        ⟨world, []⟩
      rw [hadded] at hact
      have hafter : after = _ := System.advance_of_act hthread hact
      rw [hafter, candidate, htask, Option.map_some]
      have hkey : ((task.step.identity, store.steps.length) :: store.cached).lookup identity =
          some store.steps.length := by
        rw [hidentity]
        exact List.lookup_cons_self
      exact .idle hkey List.getElem?_concat_length hfresh
        (forall_set (fun other resting _ hresting => (hthreads other resting hresting).of_none _)
          (.holding rfl))

theorem Phase.advance_idle (halike : Alike tasks identity)
    (hthread : threads[index]? = some ⟨input, stage⟩)
    (hcached : store.cached? identity = some reference)
    (hobject : store.get? reference = some (step.observed source))
    (hfresh : step.outcome = none)
    (hthreads : ∀ index thread, threads[index]? = some thread →
      Waiting tasks (some reference) index thread.stage) (world : World) :
    let after := System.advance ⟨⟨store, []⟩, threads⟩ index ⟨world, []⟩
    Phase tasks identity (some (source, step)) after.1 after.2.notes := by
  intro after
  cases hthreads index _ hthread with
  | arriving htask =>
      have hact := act_arriving_of_cached halike hcached htask input [] ⟨world, []⟩
      have hafter : after = _ := System.advance_of_act hthread hact
      rw [hafter]
      exact .idle hcached hobject hfresh
        (forall_set (fun other resting _ hresting => hthreads other resting hresting)
          (.holding rfl))
  | holding hshared =>
      cases hshared
      have hunset : (step.observed source).outcome = none := by rw [Step.observed, hfresh]; rfl
      have hact := act_holding_of_free hobject hunset List.not_mem_nil input ⟨world, []⟩
      have hafter : after = _ := System.advance_of_act hthread hact
      rw [hafter]
      have hlt := (List.getElem?_eq_some_iff.mp hthread).1
      refine .running hcached hobject hfresh (List.getElem?_set_self hlt) ?_
      intro other resting hresting hne
      rw [List.getElem?_set_ne (Ne.symm hne)] at hresting
      exact hthreads other resting hresting

theorem Phase.advance_running (halike : Alike tasks identity)
    (hthread : threads[index]? = some ⟨input, stage⟩)
    (hcached : store.cached? identity = some reference)
    (hobject : store.get? reference = some (step.observed source))
    (hfresh : step.outcome = none) {runner : Nat} {text : String}
    (hrunner : threads[runner]? = some ⟨text, .initializing reference⟩)
    (hothers : ∀ index thread, threads[index]? = some thread → index ≠ runner →
      Waiting tasks (some reference) index thread.stage) (world : World) :
    let after := System.advance ⟨⟨store, [reference]⟩, threads⟩ index ⟨world, []⟩
    Phase tasks identity (some (source, step)) after.1 after.2.notes := by
  intro after
  by_cases hindex : index = runner
  · -- The runner fills the cell: its object has an outcome from now on.
    subst hindex
    have hact : Thread.act ⟨text, .initializing reference⟩ ⟨store, [reference]⟩ ⟨world, []⟩ = _ :=
      act_initializing hobject text ⟨world, []⟩
    have hafter : after = _ := System.advance_of_act hrunner hact
    rw [hafter, List.erase_cons_head]
    change Phase tasks identity _ _ ([.initialized source (step.initializer world).1] ++ [])
    exact .settled hcached (List.getElem?_set_self (List.getElem?_eq_some_iff.mp hobject).1)
      (.run hfresh rfl) applied_nil
      (forall_set (fun other resting hne hresting => .inl (hothers other resting hresting hne))
        (.inl (.holding rfl)))
  · have hkept : ∀ {later : Stage (Watched Inserter World)},
        Waiting tasks (some reference) index later →
        Phase tasks identity (some (source, step))
          ⟨⟨store, [reference]⟩, threads.set index ⟨input, later⟩⟩ [] := by
      intro later hlater
      have hstill : (threads.set index ⟨input, later⟩)[runner]? =
          some ⟨text, .initializing reference⟩ :=
        (List.getElem?_set_ne hindex).trans hrunner
      exact .running hcached hobject hfresh hstill
        (forall_set (fun other resting _ hresting => hothers other resting hresting)
          fun _ => hlater)
    cases hothers index _ hthread hindex with
    | arriving htask =>
        have hact := act_arriving_of_cached halike hcached htask input [reference] ⟨world, []⟩
        have hafter : after = _ := System.advance_of_act hthread hact
        rw [hafter]
        exact hkept (.holding rfl)
    | holding hshared =>
        cases hshared
        have hunset : (step.observed source).outcome = none := by rw [Step.observed, hfresh]; rfl
        have hact := act_holding_of_claimed hobject hunset (List.mem_singleton_self _) input
          ⟨world, []⟩
        have hafter : after = _ := System.advance_of_act hthread hact
        rw [hafter]
        exact hkept (.holding rfl)

theorem Phase.advance_settled (halike : Alike tasks identity)
    (hthread : threads[index]? = some ⟨input, stage⟩)
    (hcached : store.cached? identity = some reference) {outcome : Outcome World}
    (hobject : store.get? reference = some ((step.settled outcome).observed source))
    {opening answers : List (Happening Inserter World)}
    (hopening : Opening source step outcome opening) (hanswers : Applied source outcome answers)
    (hthreads : ∀ index thread, threads[index]? = some thread →
      Waiting tasks (some reference) index thread.stage ∨
        Concluded source outcome (opening ++ answers) thread.input thread.stage)
    (world : World) :
    let after := System.advance ⟨⟨store, []⟩, threads⟩ index ⟨world, opening ++ answers⟩
    Phase tasks identity (some (source, step)) after.1 after.2.notes := by
  intro after
  have hkept : ∀ {later : Stage (Watched Inserter World)},
      (Waiting tasks (some reference) index later ∨
        Concluded source outcome (opening ++ answers) input later) →
      Phase tasks identity (some (source, step))
        ⟨⟨store, []⟩, threads.set index ⟨input, later⟩⟩ (opening ++ answers) :=
    fun hlater => .settled hcached hobject hopening hanswers
      (forall_set (fun other resting _ hresting => hthreads other resting hresting) hlater)
  rcases hthreads index _ hthread with hwaiting | hconcluded
  · cases hwaiting with
    | arriving htask =>
        have hact := act_arriving_of_cached halike hcached htask input []
          ⟨world, opening ++ answers⟩
        have hafter : after = _ := System.advance_of_act hthread hact
        rw [hafter]
        exact hkept (.inl (.holding rfl))
    | holding hshared =>
        cases hshared
        have hact : Thread.act ⟨input, .holding reference⟩ ⟨store, []⟩
            ⟨world, opening ++ answers⟩ = _ := act_holding_of_outcome hobject rfl input _
        have hafter : after = _ := System.advance_of_act hthread hact
        rw [hafter]
        exact hkept (.inr .resolved)
  · cases hconcluded with
    | @finished result hanswered =>
        have hact := act_finished input result (⟨store, []⟩ : Memory (Watched Inserter World))
          ⟨world, opening ++ answers⟩
        have hafter : after = _ := System.advance_of_act hthread hact
        rw [hafter]
        exact hkept (.inr (.finished hanswered))
    | resolved =>
        have hact := act_resolved input (Outcome.observed source outcome) ⟨store, []⟩
          ⟨world, opening ++ answers⟩
        cases outcome with
        | error error =>
            have hafter : after = _ := System.advance_of_act hthread hact
            rw [hafter]
            exact hkept (.inr (.finished rfl))
        | ok engine =>
            rw [applied_observed_ok, List.append_assoc] at hact
            have hafter : after = _ := System.advance_of_act hthread hact
            rw [hafter]
            refine .settled hcached hobject hopening (hanswers.concat input _)
              (forall_set ?_ (.inr (.finished ?_)))
            · intro other resting _ hresting
              rw [← List.append_assoc]
              exact (hthreads other resting hresting).imp_right fun hearlier => hearlier.append _
            · exact ⟨world, by simp, rfl⟩

theorem Phase.advance (halike : Alike tasks identity) {first : Option (Inserter × Step World)}
    {system : System (Watched Inserter World)} {observed : Watched Inserter World}
    (hlength : system.threads.length = tasks.length)
    (hphase : Phase tasks identity first system observed.notes) (index : Nat) :
    Phase tasks identity (first.or (candidate tasks index)) (system.advance index observed).1
      (system.advance index observed).2.notes := by
  rcases observed with ⟨world, notes⟩
  rcases hthread : system.threads[index]? with _ | ⟨input, stage⟩
  · have hnone : candidate tasks index = none := by
      rw [List.getElem?_eq_none_iff, hlength] at hthread
      rw [candidate, List.getElem?_eq_none hthread, Option.map_none]
    rw [System.advance_of_absent hthread, hnone, Option.or_none]
    exact hphase
  · cases hphase with
    | absent habsent hthreads => exact advance_absent halike hthread habsent hthreads world
    | idle hcached hobject hfresh hthreads =>
        exact advance_idle halike hthread hcached hobject hfresh hthreads world
    | running hcached hobject hfresh hrunner hothers =>
        exact advance_running halike hthread hcached hobject hfresh hrunner hothers world
    | settled hcached hobject hopening hanswers hthreads =>
        exact advance_settled halike hthread hcached hobject hopening hanswers hthreads world

/-! Whole runs. -/

theorem inputs_advance {World : Type} (system : System World) (index : Nat) (world : World) :
    (system.advance index world).1.threads.map Thread.input = system.threads.map Thread.input := by
  rcases system with ⟨memory, threads⟩
  rcases hthread : threads[index]? with _ | ⟨input, stage⟩
  · rw [System.advance_of_absent hthread]
  · rcases hact : Thread.act ⟨input, stage⟩ memory world with ⟨⟨later, after⟩, next⟩
    have hinput : (threads.map Thread.input)[index]? = some input := by
      rw [List.getElem?_map, hthread, Option.map_some]
    rw [System.advance_of_act hthread hact, List.map_set]
    obtain ⟨hlt, rfl⟩ := List.getElem?_eq_some_iff.mp hinput
    exact List.set_getElem_self hlt

theorem Phase.run (halike : Alike tasks identity) {first : Option (Inserter × Step World)}
    {system : System (Watched Inserter World)} {observed : Watched Inserter World}
    (hinputs : system.threads.map Thread.input = tasks.map Task.input)
    (hphase : Phase tasks identity first system observed.notes) (schedule : List Nat) :
    (system.run schedule observed).1.threads.map Thread.input = tasks.map Task.input ∧
    Phase tasks identity (first.or (schedule.findSome? (candidate tasks)))
      (system.run schedule observed).1 (system.run schedule observed).2.notes := by
  induction schedule generalizing first system observed with
  | nil =>
      rw [List.findSome?_nil, Option.or_none]
      exact ⟨hinputs, hphase⟩
  | cons index rest induction =>
      have hlength : system.threads.length = tasks.length := by
        rw [← List.length_map Thread.input, hinputs, List.length_map]
      have hafter := induction ((inputs_advance system index observed).trans hinputs)
        (hphase.advance halike hlength index)
      rw [Option.or_assoc] at hafter
      rw [List.findSome?_cons]
      rcases hcandidate : candidate tasks index with _ | inserted
      · rw [hcandidate, Option.none_or] at hafter
        exact hafter
      · rw [hcandidate, Option.some_or] at hafter
        exact hafter

def Stage.cells {World : Type} : Stage World → List Reference
  | .initializing reference => [reference]
  | _ => []

/-- The cells that are being filled, one for each thread that runs an initializer. -/
def initializing {World : Type} (system : System World) : List Reference :=
  system.threads.flatMap (·.stage.cells)

/-- What holds of a system at any time, where `first` is the step inserted first, if any. -/
structure Agreement (tasks : List (Task World)) (first : Option (Inserter × Step World))
    (system : System (Watched Inserter World)) (notes : List (Happening Inserter World)) :
    Prop where
  inputs : system.threads.map Thread.input = tasks.map Task.input
  /-- Of all initializers together at most one is running or has run. -/
  once : (initializing system).length + (notes.filterMap Happening.outcome?).length ≤ 1
  running : ∀ reference ∈ initializing system, ∃ source step, first = some (source, step) ∧
    system.memory.store.get? reference = some (step.observed source)
  initialized : ∀ origin outcome, .initialized origin outcome ∈ notes →
    ∃ step now, first = some (origin, step) ∧ (step.initializer now).1 = outcome
  applied : ∀ origin engine input answer, .applied origin engine input answer ∈ notes →
    ∃ step, first = some (origin, step) ∧
      (step.outcome = some (.ok engine) ∨ .initialized origin (.ok engine) ∈ notes)
  finished : ∀ (index : Nat) (input : String) (result : Except FormatError String),
    system.threads[index]? = some ⟨input, .finished result⟩ →
    ∃ source step outcome, first = some (source, step) ∧
      (step.outcome = some outcome ∨ .initialized source outcome ∈ notes) ∧
      Answered source outcome notes input result

theorem Waiting.cells_eq_nil {shared : Option Reference}
    (hwaiting : Waiting tasks shared index stage) : stage.cells = [] := by
  cases hwaiting with
  | arriving => rfl
  | holding => rfl

theorem Concluded.cells_eq_nil {outcome : Outcome World}
    {notes : List (Happening Inserter World)}
    (hconcluded : Concluded source outcome notes input stage) : stage.cells = [] := by
  cases hconcluded with
  | resolved => rfl
  | finished => rfl

theorem initializing_eq_nil {World : Type} {system : System World}
    (hthreads : ∀ (index : Nat) (thread : Thread World), system.threads[index]? = some thread →
      thread.stage.cells = []) :
    initializing system = [] := by
  rw [initializing, List.flatMap_eq_nil_iff]
  intro thread hmem
  obtain ⟨index, hindex⟩ := List.getElem?_of_mem hmem
  exact hthreads index thread hindex

theorem Opening.length_le {outcome : Outcome World} {opening : List (Happening Inserter World)}
    (hopening : Opening source step outcome opening) :
    (opening.filterMap Happening.outcome?).length ≤ 1 := by
  cases hopening with
  | kept => exact Nat.zero_le 1
  | run => exact Nat.le_refl 1

theorem Applied.filterMap_outcome? {outcome : Outcome World}
    {answers : List (Happening Inserter World)} (hanswers : Applied source outcome answers) :
    answers.filterMap Happening.outcome? = [] := by
  rw [List.filterMap_eq_nil_iff]
  intro note hnote
  obtain ⟨engine, input, answer, -, rfl⟩ := hanswers note hnote
  rfl

theorem Opening.of_mem {outcome : Outcome World} {opening : List (Happening Inserter World)}
    (hopening : Opening source step outcome opening) {note : Happening Inserter World}
    (hnote : note ∈ opening) :
    note = .initialized source outcome ∧ ∃ now, (step.initializer now).1 = outcome := by
  cases hopening with
  | kept => cases hnote
  | run hfresh houtcome => exact ⟨List.mem_singleton.mp hnote, _, houtcome⟩

/-- The outcome of the settled phase is the one kept, or it is noted. -/
theorem Opening.outcome_or_mem {outcome : Outcome World}
    {opening : List (Happening Inserter World)}
    (hopening : Opening source step outcome opening)
    (answers : List (Happening Inserter World)) :
    step.outcome = some outcome ∨ .initialized source outcome ∈ opening ++ answers := by
  cases hopening with
  | kept hsettled => exact .inl hsettled
  | run => exact .inr List.mem_cons_self

/-- As long as all threads wait, nothing has run. -/
theorem agreement_of_waiting {first : Option (Inserter × Step World)}
    {system : System (Watched Inserter World)} {shared : Option Reference}
    (hinputs : system.threads.map Thread.input = tasks.map Task.input)
    (hthreads : ∀ index thread, system.threads[index]? = some thread →
      Waiting tasks shared index thread.stage) : Agreement tasks first system [] := by
  have hnone := initializing_eq_nil fun index thread hthread =>
    (hthreads index thread hthread).cells_eq_nil
  refine ⟨hinputs, ?_, ?_, nofun, nofun, ?_⟩
  · rw [hnone]
    exact Nat.zero_le 1
  · rw [hnone]
    exact nofun
  · intro index input result hthread
    cases hthreads index _ hthread

theorem agreement_of_running {runner : Nat} {text : String}
    (hinputs : threads.map Thread.input = tasks.map Task.input)
    (hobject : store.get? reference = some (step.observed source))
    (hrunner : threads[runner]? = some ⟨text, .initializing reference⟩)
    (hothers : ∀ index thread, threads[index]? = some thread → index ≠ runner →
      Waiting tasks (some reference) index thread.stage) :
    Agreement tasks (some (source, step)) ⟨⟨store, [reference]⟩, threads⟩ [] := by
  have hlt := (List.getElem?_eq_some_iff.mp hrunner).1
  have hcells : ∀ index thread, threads[index]? = some thread →
      thread.stage.cells = if index = runner then [reference] else [] := by
    intro index thread hthread
    split
    · next heq =>
        rw [heq, hrunner] at hthread
        cases hthread
        rfl
    · next hne => exact (hothers index thread hthread hne).cells_eq_nil
  have hone : initializing ⟨⟨store, [reference]⟩, threads⟩ = [reference] := by
    rw [initializing, Step.flatMap_eq_of_getElem? hcells, if_pos hlt]
  refine ⟨hinputs, ?_, ?_, nofun, nofun, ?_⟩
  · rw [hone]
    exact Nat.le_refl 1
  · intro cell hcell
    rw [hone, List.mem_singleton] at hcell
    subst hcell
    exact ⟨source, step, rfl, hobject⟩
  · intro index input result hthread
    by_cases hindex : index = runner
    · rw [hindex] at hthread
      cases hthread.symm.trans hrunner
    · cases hothers index _ hthread hindex

theorem agreement_of_settled {outcome : Outcome World}
    {opening answers : List (Happening Inserter World)}
    (hinputs : threads.map Thread.input = tasks.map Task.input)
    (hopening : Opening source step outcome opening) (hanswers : Applied source outcome answers)
    (hthreads : ∀ index thread, threads[index]? = some thread →
      Waiting tasks (some reference) index thread.stage ∨
        Concluded source outcome (opening ++ answers) thread.input thread.stage) :
    Agreement tasks (some (source, step)) ⟨⟨store, []⟩, threads⟩ (opening ++ answers) := by
  have hnone : initializing ⟨⟨store, []⟩, threads⟩ = [] :=
    initializing_eq_nil fun index thread hthread =>
      (hthreads index thread hthread).elim Waiting.cells_eq_nil Concluded.cells_eq_nil
  refine ⟨hinputs, ?_, ?_, ?_, ?_, ?_⟩
  · rw [hnone, List.filterMap_append, hanswers.filterMap_outcome?, List.append_nil]
    exact (Nat.zero_add _).symm ▸ hopening.length_le
  · rw [hnone]
    exact nofun
  · intro origin noted hnote
    rcases List.mem_append.mp hnote with hopened | hanswer
    · obtain ⟨hsame, now, houtcome⟩ := hopening.of_mem hopened
      cases hsame
      exact ⟨step, now, rfl, houtcome⟩
    · obtain ⟨engine, input, answer, -, hsame⟩ := hanswers _ hanswer
      cases hsame
  · intro origin engine input answer hnote
    rcases List.mem_append.mp hnote with hopened | hanswer
    · cases (hopening.of_mem hopened).1
    · obtain ⟨engine, input, answer, rfl, hsame⟩ := hanswers _ hanswer
      cases hsame
      exact ⟨step, rfl, hopening.outcome_or_mem answers⟩
  · intro index input result hthread
    rcases hthreads index _ hthread with hwaiting | hconcluded
    · cases hwaiting
    · cases hconcluded with
      | finished hanswered =>
          exact ⟨source, step, outcome, rfl, hopening.outcome_or_mem answers, hanswered⟩

theorem Phase.agreement {first : Option (Inserter × Step World)}
    {system : System (Watched Inserter World)} {notes : List (Happening Inserter World)}
    (hinputs : system.threads.map Thread.input = tasks.map Task.input)
    (hphase : Phase tasks identity first system notes) : Agreement tasks first system notes := by
  cases hphase with
  | absent habsent hthreads => exact agreement_of_waiting hinputs hthreads
  | idle hcached hobject hfresh hthreads => exact agreement_of_waiting hinputs hthreads
  | running hcached hobject hfresh hrunner hothers =>
      exact agreement_of_running hinputs hobject hrunner hothers
  | settled hcached hobject hopening hanswers hthreads =>
      exact agreement_of_settled hinputs hopening hanswers hthreads

/-! The start. -/

theorem alike_of_create {name key : String}
    (hbuilt : ∀ task ∈ tasks, ∃ initializer,
      Step.create name (.ok key) initializer = .ok task.step) : Alike tasks (name, key) := by
  intro index task htask
  obtain ⟨initializer, hcreated⟩ := hbuilt task (List.mem_of_getElem? htask)
  obtain ⟨-, written, hwritten, hstep⟩ := Step.create_eq_ok_iff.mp hcreated
  cases hwritten
  rw [hstep]
  exact ⟨rfl, rfl⟩

theorem phase_start {store : StepStore World} (hheld : store.Held) (tasks : List (Task World))
    (identity : Step.Identity) :
    Phase tasks identity (resident store identity)
      (System.start (store.observed .earlier) (tasks.mapIdx Task.observed)) [] := by
  have hthreads : ∀ (shared : Option Reference) (index : Nat)
      (thread : Thread (Watched Inserter World)),
      (System.start (store.observed .earlier) (tasks.mapIdx Task.observed)).threads[index]? =
        some thread → Waiting tasks shared index thread.stage := by
    intro shared index thread hthread
    rw [System.start, List.getElem?_map, List.getElem?_mapIdx, Option.map_map] at hthread
    obtain ⟨task, htask, rfl⟩ := Option.map_eq_some_iff.mp hthread
    exact .arriving htask
  rcases hcached : store.cached? identity with _ | reference
  · rw [resident, hcached]
    exact .absent hcached (hthreads none)
  · obtain ⟨step, hstep⟩ := hheld identity reference hcached
    have hobject : (store.observed Inserter.earlier).get? reference =
        some (step.observed .earlier) := by
      rw [StepStore.get?, StepStore.observed, List.getElem?_map]
      exact congrArg (Option.map _) hstep
    have hresident : resident store identity = some (.earlier, step) := by
      rw [resident, hcached, Option.bind_some, hstep, Option.map_some]
    rw [hresident]
    rcases hsettled : step.outcome with _ | outcome
    · exact .idle hcached hobject hsettled (hthreads _)
    · have hsame : step.settled outcome = step := by
        rw [Step.settled, ← hsettled]
      rw [← hsame] at hobject
      exact .settled hcached hobject (.kept hsettled) applied_nil
        fun index thread hthread => .inl (hthreads _ index thread hthread)

theorem mirrors_start (store : StepStore World) (tasks : List (Task World)) :
    (System.start store tasks).Mirrors
      (System.start (store.observed .earlier) (tasks.mapIdx Task.observed)) := by
  refine ⟨⟨⟨rfl, ?_⟩, rfl⟩, ?_⟩
  · exact List.forall₂_map_right_iff.mpr
      (List.forall₂_same.mpr fun step _ => Step.mirrors_observed Inserter.earlier step)
  · refine List.forall₂_map_left_iff.mpr (List.forall₂_map_right_iff.mpr ?_)
    refine List.forall₂_iff_get.mpr ⟨by rw [List.length_mapIdx], ?_⟩
    intro index hlt hseen
    rw [List.get_eq_getElem, List.get_eq_getElem, List.getElem_mapIdx]
    exact ⟨rfl, .arriving (Step.mirrors_observed _ _)⟩

/-- Over every history of a cache and every schedule of threads that each build a step of one
name and key: one initializer runs at most, that of the step inserted first, and every
thread that finishes has the answer of its engine or its error. -/
theorem agreement_run {name key : String} {tasks : List (Task World)}
    (hbuilt : ∀ task ∈ tasks, ∃ initializer,
      Step.create name (.ok key) initializer = .ok task.step)
    (calls : List (StepStore.Call World)) (schedule : List Nat) (world : World) :
    let past := Visit.run StepStore.perform .empty calls world
    let store := past.1.2
    let run := (System.start (store.observed .earlier) (tasks.mapIdx Task.observed)).run schedule
      ⟨past.2, []⟩
    Agreement tasks ((resident store (name, key)).or (schedule.findSome? (candidate tasks)))
        run.1 run.2.notes ∧
      run.1.results = ((System.start store tasks).run schedule past.2).1.results := by
  intro past store run
  have hinputs : (System.start (store.observed .earlier)
      (tasks.mapIdx Task.observed)).threads.map Thread.input = tasks.map Task.input := by
    refine List.ext_getElem? fun index => ?_
    simp only [System.start, List.getElem?_map, List.getElem?_mapIdx, Option.map_map]
    rfl
  have hstart : Phase tasks (name, key) (resident store (name, key)) _
      (⟨past.2, []⟩ : Watched Inserter World).notes :=
    phase_start (StepStore.held_run calls world) tasks (name, key)
  obtain ⟨hinputsAfter, hphase⟩ := hstart.run (alike_of_create hbuilt) hinputs schedule
  have hmirrors := (mirrors_start store tasks).run schedule ⟨past.2, []⟩
  exact ⟨hphase.agreement hinputsAfter, hmirrors.1.results⟩

theorem agreement_run_of_succeedsOnce :
    ∃ step, Step.create "upper" (.ok "1") Step.succeedsOnce = .ok step ∧
      let tasks : List (Task Nat) := [⟨step, "a"⟩, ⟨step, "b"⟩]
      let schedule := [1, 0, 1, 0, 1, 0, 1, 1, 0, 0]
      let run := (System.start (StepStore.empty.observed .earlier)
        (tasks.mapIdx Task.observed)).run schedule ⟨0, []⟩
      Agreement tasks (some (.thread 1, step)) run.1 run.2.notes ∧
        run.1.results = [some (.ok "a"), some (.ok "b")] := by
  have hcreated : Step.create "upper" (.ok "1") Step.succeedsOnce =
    .ok ⟨"upper", "1", Step.succeedsOnce, none⟩ := rfl
  refine ⟨_, hcreated, ?_, rfl⟩
  exact (agreement_run (List.forall_mem_cons.mpr ⟨⟨_, hcreated⟩,
    List.forall_mem_cons.mpr ⟨⟨_, hcreated⟩, List.forall_mem_nil _⟩⟩) []
    [1, 0, 1, 0, 1, 0, 1, 1, 0, 0] 0).1

end Threads
end CodeFormatting
