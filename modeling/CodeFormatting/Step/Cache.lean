import CodeFormatting.Step.Basic
namespace CodeFormatting

/-! Steps live in a store, where a reference stands for one object for good. A cache
keeps a reference for each identity. Clearing it forgets the references but not the steps,
which keep what their initialization came to. As with steps themselves, what only traces that
a step was cached or found in the cache is left out. -/

variable {World : Type}

abbrev Reference := Nat

structure StepStore (World : Type) where
  steps : List (Step World)
  cached : List (Step.Identity × Reference)

namespace StepStore

def empty : StepStore World :=
  ⟨[], []⟩

def get? (store : StepStore World) (reference : Reference) : Option (Step World) :=
  store.steps[reference]?

/-- Adds a step as an object of its own. -/
def add (store : StepStore World) (step : Step World) : Reference × StepStore World :=
  (store.steps.length, { store with steps := store.steps ++ [step] })

def cached? (store : StepStore World) (identity : Step.Identity) : Option Reference :=
  store.cached.lookup identity

/-- The cached step of the same identity, or the step itself, which is cached then. -/
def getOrInsert (store : StepStore World) (step : Step World) :
    Reference × StepStore World :=
  match store.cached? step.identity with
  | some reference => (reference, store)
  | none =>
    let (reference, store) := store.add step
    (reference, { store with cached := (step.identity, reference) :: store.cached })

def size (store : StepStore World) : Nat :=
  store.cached.length

def isEmpty (store : StepStore World) : Bool :=
  store.size == 0

def clear (store : StepStore World) : StepStore World :=
  { store with cached := [] }

def replace (store : StepStore World) (reference : Reference) (step : Step World) :
    StepStore World :=
  { store with steps := store.steps.set reference step }

/-- Uses the step behind a reference and keeps what it has become. -/
def use {Answer : Type} (store : StepStore World) (reference : Reference)
    (action : Step World → StateM World (Answer × Step World)) :
    StateM World (Option Answer × StepStore World) :=
  match store.get? reference with
  | none => pure (none, store)
  | some step => do
    let (answer, step) ← action step
    return (some answer, store.replace reference step)

def format (store : StepStore World) (reference : Reference) (input : String) :
    StateM World (Option (Except FormatError String) × StepStore World) :=
  store.use reference (·.format input)

def prepare (store : StepStore World) (reference : Reference) :
    StateM World (Option (Except FormatError Unit) × StepStore World) :=
  store.use reference Step.prepare

end StepStore

end CodeFormatting
