import CodeFormatting.Proofs.Step.Store
namespace CodeFormatting

/-! The entries of a cache stand for steps of its store, whatever was done with the cache. -/

namespace StepStore

variable {World : Type}

def Held (store : StepStore World) : Prop :=
  ∀ identity reference, store.cached? identity = some reference →
    ∃ step, store.get? reference = some step

theorem held_empty : (empty : StepStore World).Held := by
  intro identity reference hcached
  cases hcached

theorem Held.get?_getOrInsert {store : StepStore World} (hheld : store.Held)
    (step : Step World) :
    ∃ object, (store.getOrInsert step).2.get? (store.getOrInsert step).1 = some object := by
  rcases hcached : store.cached? step.identity with _ | reference
  · rw [getOrInsert_of_absent hcached]
    exact ⟨step, List.getElem?_concat_length⟩
  · rw [getOrInsert_of_cached hcached]
    exact hheld _ _ hcached

theorem Held.getOrInsert {store : StepStore World} (hheld : store.Held) (step : Step World) :
    (store.getOrInsert step).2.Held := by
  rcases habsent : store.cached? step.identity with _ | cached
  · rw [getOrInsert_of_absent habsent]
    intro identity reference hcached
    rw [cached?, List.lookup_cons] at hcached
    split at hcached
    · cases hcached
      exact ⟨step, List.getElem?_concat_length⟩
    · obtain ⟨object, hobject⟩ := hheld identity reference hcached
      have hlt := (List.getElem?_eq_some_iff.mp hobject).1
      exact ⟨object, by rw [get?, List.getElem?_append_left hlt]; exact hobject⟩
  · rw [getOrInsert_of_cached habsent]
    exact hheld

theorem Held.replace {store : StepStore World} (hheld : store.Held) (reference : Reference)
    (step : Step World) : (store.replace reference step).Held := by
  intro identity cached hcached
  obtain ⟨object, hobject⟩ := hheld identity cached hcached
  have hlt := (List.getElem?_eq_some_iff.mp hobject).1
  by_cases heq : reference = cached
  · subst heq
    exact ⟨step, List.getElem?_set_self hlt⟩
  · exact ⟨object, by rw [get?, StepStore.replace, List.getElem?_set_ne heq]; exact hobject⟩

theorem Held.perform {store : StepStore World} (hheld : store.Held) (call : Call World)
    (world : World) : (store.perform call world).1.2.Held := by
  cases call with
  | getOrInsert step => exact hheld.getOrInsert step
  | clear =>
      intro identity reference hcached
      cases hcached
  | size => exact hheld
  | isEmpty => exact hheld
  | use reference call =>
      rcases hobject : store.get? reference with _ | step
      · simp only [StepStore.perform, use, hobject]
        exact hheld
      · simp only [StepStore.perform, use, hobject]
        exact hheld.replace _ _

theorem held_run (calls : List (Call World)) (world : World) :
    (Visit.run perform .empty calls world).1.2.Held := by
  suffices hrun : ∀ (store : StepStore World) world, store.Held →
      (Visit.run perform store calls world).1.2.Held from hrun _ world held_empty
  induction calls with
  | nil => exact fun _ _ hheld => hheld
  | cons call rest induction =>
      intro store world hheld
      exact induction _ _ (hheld.perform call world)

end StepStore

namespace Threads

/-! Threads that share a cache. Each hands in a step of its own and formats one text with
the step that it gets for it. What a thread does falls into actions that nothing comes
between. The cache is searched and extended under its lock. The cell of a step is claimed by
one thread, which runs the initializer and fills the cell; any other thread waits until the
cell can be read. -/

variable {World : Type}

structure Task (World : Type) where
  step : Step World
  input : String

inductive Stage (World : Type)
  | arriving (step : Step World)
  | holding (reference : Reference)
  | initializing (reference : Reference)
  | resolved (outcome : Outcome World)
  | finished (result : Except FormatError String)

def Stage.result? : Stage World → Option (Except FormatError String)
  | finished result => some result
  | _ => none

structure Thread (World : Type) where
  input : String
  stage : Stage World

/-- What the threads share: the cache with its steps, and the cells being filled. -/
structure Memory (World : Type) where
  store : StepStore World
  claimed : List Reference

structure System (World : Type) where
  memory : Memory World
  threads : List (Thread World)

/-- The next action of a thread. One that has to wait stays where it is. -/
def Thread.act (thread : Thread World) (memory : Memory World) :
    StateM World (Stage World × Memory World) :=
  match thread.stage with
  | .arriving step =>
    let (reference, store) := memory.store.getOrInsert step
    return (.holding reference, { memory with store })
  | .holding reference =>
    match memory.store.get? reference with
    | none => return (.holding reference, memory)
    | some step =>
      match step.outcome with
      | some outcome => return (.resolved outcome, memory)
      | none =>
        if reference ∈ memory.claimed then return (.holding reference, memory)
        else return (.initializing reference,
          { memory with claimed := reference :: memory.claimed })
  | .initializing reference =>
    match memory.store.get? reference with
    | none => return (.initializing reference, memory)
    | some step => do
      let outcome ← step.initializer
      return (.holding reference,
        { store := memory.store.replace reference (step.settled outcome)
          claimed := memory.claimed.erase reference })
  | .resolved outcome => do
    return (.finished (← Step.applied outcome thread.input), memory)
  | .finished result => return (.finished result, memory)

namespace System

def start (store : StepStore World) (tasks : List (Task World)) : System World where
  memory := ⟨store, []⟩
  threads := tasks.map fun task => ⟨task.input, .arriving task.step⟩

def advance (system : System World) (index : Nat) : StateM World (System World) :=
  match system.threads[index]? with
  | none => return system
  | some thread => do
    let (stage, memory) ← thread.act system.memory
    return { memory, threads := system.threads.set index { thread with stage } }

/-- A schedule says which thread acts next. -/
def run : System World → List Nat → StateM World (System World)
  | system, [] => return system
  | system, index :: rest => do
    let system ← system.advance index
    run system rest

end System

/-! The actions by the stage of the thread. -/

variable {store : StepStore World} {claimed : List Reference} {reference : Reference}
  {step : Step World}

theorem act_arriving (input : String) (step : Step World) (store : StepStore World)
    (claimed : List Reference) (world : World) :
    Thread.act ⟨input, .arriving step⟩ ⟨store, claimed⟩ world =
      ((.holding (store.getOrInsert step).1, ⟨(store.getOrInsert step).2, claimed⟩), world) := rfl

theorem act_holding_of_outcome (hobject : store.get? reference = some step)
    {outcome : Outcome World} (hsettled : step.outcome = some outcome) (input : String)
    (world : World) :
    Thread.act ⟨input, .holding reference⟩ ⟨store, claimed⟩ world =
      ((.resolved outcome, ⟨store, claimed⟩), world) := by
  simp only [Thread.act, hobject, hsettled]
  rfl

theorem act_holding_of_claimed (hobject : store.get? reference = some step)
    (hfresh : step.outcome = none) (hclaimed : reference ∈ claimed) (input : String)
    (world : World) :
    Thread.act ⟨input, .holding reference⟩ ⟨store, claimed⟩ world =
      ((.holding reference, ⟨store, claimed⟩), world) := by
  simp only [Thread.act, hobject, hfresh, if_pos hclaimed]
  rfl

theorem act_holding_of_free (hobject : store.get? reference = some step)
    (hfresh : step.outcome = none) (hfree : reference ∉ claimed) (input : String)
    (world : World) :
    Thread.act ⟨input, .holding reference⟩ ⟨store, claimed⟩ world =
      ((.initializing reference, ⟨store, reference :: claimed⟩), world) := by
  simp only [Thread.act, hobject, hfresh, if_neg hfree]
  rfl

theorem act_initializing (hobject : store.get? reference = some step) (input : String)
    (world : World) :
    Thread.act ⟨input, .initializing reference⟩ ⟨store, claimed⟩ world =
      ((.holding reference,
        ⟨store.replace reference (step.settled (step.initializer world).1),
          claimed.erase reference⟩), (step.initializer world).2) := by
  simp only [Thread.act, hobject]
  rfl

theorem act_resolved (input : String) (outcome : Outcome World) (memory : Memory World)
    (world : World) :
    Thread.act ⟨input, .resolved outcome⟩ memory world =
      ((.finished (Step.applied outcome input world).1, memory),
        (Step.applied outcome input world).2) := rfl

theorem act_finished (input : String) (result : Except FormatError String)
    (memory : Memory World) (world : World) :
    Thread.act ⟨input, .finished result⟩ memory world = ((.finished result, memory), world) := rfl

namespace System

theorem advance_of_act {memory after : Memory World} {threads : List (Thread World)}
    {index : Nat} {input : String} {stage later : Stage World} {world next : World}
    (hthread : threads[index]? = some ⟨input, stage⟩)
    (hact : Thread.act ⟨input, stage⟩ memory world = ((later, after), next)) :
    advance ⟨memory, threads⟩ index world =
      (⟨after, threads.set index ⟨input, later⟩⟩, next) := by
  simp only [advance, hthread, bind, StateT.bind, hact]
  rfl

theorem advance_of_absent {system : System World} {index : Nat}
    (habsent : system.threads[index]? = none) (world : World) :
    system.advance index world = (system, world) := by
  simp only [advance, habsent]
  rfl

theorem run_cons_alone {memory after : Memory World} {input : String}
    {stage later : Stage World} {world next : World}
    (hact : Thread.act ⟨input, stage⟩ memory world = ((later, after), next)) (rest : List Nat) :
    run ⟨memory, [⟨input, stage⟩]⟩ (0 :: rest) world =
      run ⟨after, [⟨input, later⟩]⟩ rest next := by
  have hadvance : advance ⟨memory, [⟨input, stage⟩]⟩ 0 world = _ := advance_of_act rfl hact
  simp only [run, bind, StateT.bind, hadvance]
  rfl

/-- A thread on its own does what a caller of the cache does. -/
theorem run_alone {store cached after : StepStore World} (hheld : store.Held)
    {task : Task World} {reference : Reference} {answer : Option (Except FormatError String)}
    {world next : World} (hinserted : store.getOrInsert task.step = (reference, cached))
    (hformat : cached.format reference task.input world = ((answer, after), next)) :
    ∃ result, answer = some result ∧
      (start store [task]).run [0, 0, 0, 0, 0] world =
        (⟨⟨after, []⟩, [⟨task.input, .finished result⟩]⟩, next) := by
  obtain ⟨step, hstep⟩ := hheld.get?_getOrInsert task.step
  rw [hinserted] at hstep
  have harriving := act_arriving task.input task.step store [] world
  rw [hinserted] at harriving
  rw [start, List.map_cons, List.map_nil, run_cons_alone harriving]
  simp only [StepStore.format, StepStore.use, hstep, Step.format, Step.resolve] at hformat
  cases hsettled : step.outcome with
  | some outcome =>
      rw [run_cons_alone (act_holding_of_outcome hstep hsettled _ _),
        run_cons_alone (act_resolved _ _ _ _), run_cons_alone (act_finished _ _ _ _),
        run_cons_alone (act_finished _ _ _ _)]
      simp only [hsettled] at hformat
      cases hformat
      refine ⟨_, rfl, ?_⟩
      rw [StepStore.replace_of_get? hstep]
      rfl
  | none =>
      have hfilled : (cached.replace reference (step.settled (step.initializer world).1)).get?
          reference = some (step.settled (step.initializer world).1) :=
        List.getElem?_set_self (List.getElem?_eq_some_iff.mp hstep).1
      rw [run_cons_alone (act_holding_of_free hstep hsettled List.not_mem_nil _ _),
        run_cons_alone (act_initializing hstep _ _), List.erase_cons_head,
        run_cons_alone (act_holding_of_outcome hfilled rfl _ _),
        run_cons_alone (act_resolved _ _ _ _)]
      simp only [hsettled] at hformat
      cases hformat
      exact ⟨_, rfl, rfl⟩

end System
/-! Observing the steps changes no result. -/

variable {Note : Type}

inductive Stage.Mirrors : Stage World → Stage (Observed Note World) → Prop
  | arriving {step : Step World} {seen : Step (Observed Note World)} (hstep : step.Mirrors seen) :
      Mirrors (.arriving step) (.arriving seen)
  | holding (reference : Reference) : Mirrors (.holding reference) (.holding reference)
  | initializing (reference : Reference) :
      Mirrors (.initializing reference) (.initializing reference)
  | resolved {outcome : Outcome World} {seen : Outcome (Observed Note World)}
      (houtcome : outcome.Mirrors seen) : Mirrors (.resolved outcome) (.resolved seen)
  | finished (result : Except FormatError String) : Mirrors (.finished result) (.finished result)

structure Thread.Mirrors (thread : Thread World) (seen : Thread (Observed Note World)) : Prop where
  input : thread.input = seen.input
  stage : thread.stage.Mirrors seen.stage

structure Memory.Mirrors (memory : Memory World) (seen : Memory (Observed Note World)) :
    Prop where
  store : memory.store.Mirrors seen.store
  claimed : memory.claimed = seen.claimed

structure System.Mirrors (system : System World) (seen : System (Observed Note World)) :
    Prop where
  memory : system.memory.Mirrors seen.memory
  threads : List.Forall₂ Thread.Mirrors system.threads seen.threads

theorem Thread.Mirrors.act {thread : Thread World} {seen : Thread (Observed Note World)}
    (hthread : thread.Mirrors seen) {memory : Memory World}
    {seenMemory : Memory (Observed Note World)} (hmemory : memory.Mirrors seenMemory) :
    Observed.Mirrors (fun bare noted => bare.1.Mirrors noted.1 ∧ bare.2.Mirrors noted.2)
      (thread.act memory) (seen.act seenMemory) := by
  rcases thread with ⟨input, stage⟩
  rcases seen with ⟨seenInput, seenStage⟩
  rcases memory with ⟨store, claimed⟩
  rcases seenMemory with ⟨seenStore, seenClaimed⟩
  obtain ⟨rfl, hstage⟩ := hthread
  obtain ⟨hstore, rfl⟩ := hmemory
  cases hstage with
  | arriving hstep =>
      obtain ⟨hreference, hafter⟩ := hstore.getOrInsert hstep
      exact Observed.mirrors_pure ⟨hreference ▸ .holding _, hafter, rfl⟩
  | holding reference =>
      have hobject := hstore.get? reference
      simp only [Thread.act]
      generalize store.get? reference = object, seenStore.get? reference = seenObject at hobject
      cases hobject with
      | none => exact Observed.mirrors_pure ⟨.holding reference, hstore, rfl⟩
      | @some step watched hstep =>
          have houtcome := hstep.outcome
          dsimp only
          generalize step.outcome = outcome, watched.outcome = seenOutcome at houtcome
          cases houtcome with
          | some hsame => exact Observed.mirrors_pure ⟨.resolved hsame, hstore, rfl⟩
          | none =>
              dsimp only
              split
              · exact Observed.mirrors_pure ⟨.holding reference, hstore, rfl⟩
              · exact Observed.mirrors_pure ⟨.initializing reference, hstore, rfl⟩
  | initializing reference =>
      have hobject := hstore.get? reference
      simp only [Thread.act]
      generalize store.get? reference = object, seenStore.get? reference = seenObject at hobject
      cases hobject with
      | none => exact Observed.mirrors_pure ⟨.initializing reference, hstore, rfl⟩
      | some hstep =>
          refine hstep.initializer.bind fun outcome seenOutcome houtcome => ?_
          exact Observed.mirrors_pure ⟨.holding reference,
            hstore.replace reference (hstep.settled houtcome), rfl⟩
  | resolved houtcome =>
      refine (Step.mirrors_applied houtcome input).bind ?_
      rintro result _ rfl
      exact Observed.mirrors_pure ⟨.finished result, hstore, rfl⟩
  | finished result => exact Observed.mirrors_pure ⟨.finished result, hstore, rfl⟩

namespace System

variable {system : System World} {seen : System (Observed Note World)}

theorem Mirrors.advance (hsystem : system.Mirrors seen) (index : Nat) :
    Observed.Mirrors System.Mirrors (system.advance index) (seen.advance index) := by
  have hthread := rel_getElem? hsystem.threads index
  simp only [System.advance]
  generalize system.threads[index]? = thread, seen.threads[index]? = seenThread at hthread
  cases hthread with
  | none => exact Observed.mirrors_pure hsystem
  | some hthread =>
      refine (hthread.act hsystem.memory).bind ?_
      rintro ⟨stage, memory⟩ ⟨seenStage, seenMemory⟩ ⟨hstage, hmemory⟩
      exact Observed.mirrors_pure
        ⟨hmemory, forall₂_set hsystem.threads index ⟨hthread.input, hstage⟩⟩

theorem Mirrors.run (hsystem : system.Mirrors seen) (schedule : List Nat) :
    Observed.Mirrors System.Mirrors (system.run schedule) (seen.run schedule) := by
  induction schedule generalizing system seen with
  | nil => exact Observed.mirrors_pure hsystem
  | cons index rest induction =>
      exact (hsystem.advance index).bind fun after seenAfter hafter => induction hafter

/-- The results of the threads, as far as they have finished. -/
def results (system : System World) : List (Option (Except FormatError String)) :=
  system.threads.map (·.stage.result?)

theorem Mirrors.results (hsystem : system.Mirrors seen) : seen.results = system.results := by
  have hthreads := hsystem.threads
  rw [System.results, System.results]
  generalize system.threads = threads, seen.threads = seenThreads at hthreads
  induction hthreads with
  | nil => rfl
  | @cons thread seenThread rest seenRest hthread hrest induction =>
      have hresult : seenThread.stage.result? = thread.stage.result? := by
        have hstage := hthread.stage
        generalize thread.stage = stage, seenThread.stage = seenStage at hstage
        cases hstage with
        | finished => rfl
        | arriving | holding | initializing | resolved => rfl
      rw [List.map_cons, List.map_cons, hresult, induction]

end System

end Threads
end CodeFormatting
