import CodeFormatting.Json.Printer
import CodeFormatting.Step.Error
import CodeFormatting.Text.Quoted
namespace CodeFormatting

/-! A step is a named engine that is made on first use. Its initializer runs at most
once: the outcome, success or failure, is kept and answers every later call. The key
is the text of the configuration, and a name and a key together identify a step. The world
of a step need not keep a journal, so what only traces that a step was made, that it formats or
that it initializes is left out. -/

variable {World : Type}

abbrev Initializer (World : Type) := StateM World (Except StepError (Engine World))

structure Step (World : Type) where
  name : String
  key : String
  initializer : Initializer World
  outcome : Option (Except StepError (Engine World))

/-- What a step is made from: a value that can be written, or why it cannot. -/
abbrev StepState := Except String String

namespace Step

abbrev Identity := String × String

def identity (step : Step World) : Identity :=
  (step.name, step.key)

/-- A step that has not been initialized. The name is checked before the state. -/
def create (name : String) (state : StepState) (initializer : Initializer World) :
    Except StepError (Step World) :=
  if Text.isBlankText name then .error (.missingArgument "name")
  else
    match state with
    | .ok key => .ok { name, key, initializer, outcome := none }
    | .error text => .error (.serialize text)

def isInitialized (step : Step World) : Bool :=
  step.outcome.isSome

def settled (step : Step World) (outcome : Except StepError (Engine World)) : Step World :=
  { step with outcome := some outcome }

/-- The outcome of the initializer, which runs now unless it has run before. -/
def resolve (step : Step World) :
    StateM World (Except StepError (Engine World) × Step World) :=
  match step.outcome with
  | some outcome => pure (outcome, step)
  | none => do
    let outcome ← step.initializer
    return (outcome, step.settled outcome)

def prepare (step : Step World) : StateM World (Except FormatError Unit × Step World) := do
  let (outcome, step) ← step.resolve
  return (match outcome with
    | .ok _ => .ok ()
    | .error error => .error (.initialization error), step)

/-- Formats a text with the engine of an outcome. -/
def applied (outcome : Except StepError (Engine World)) (input : String) :
    StateM World (Except FormatError String) :=
  match outcome with
  | .error error => pure (.error (.initialization error))
  | .ok engine => do
    match ← engine input with
    | .ok output => return .ok output
    | .error error => return .error (.delegate error)

def format (step : Step World) (input : String) :
    StateM World (Except FormatError String × Step World) := do
  let (outcome, step) ← step.resolve
  return (← applied outcome input, step)

def description (step : Step World) : String :=
  "FormatterStep \x7b name: " ++ Text.quoted step.name ++ ", key: " ++ Text.quoted step.key ++
    ", initialized: " ++ toString step.isInitialized ++ ", .. \x7d"

@[simp] theorem name_settled (step : Step World) (outcome : Except StepError (Engine World)) :
    (step.settled outcome).name = step.name := rfl

@[simp] theorem key_settled (step : Step World) (outcome : Except StepError (Engine World)) :
    (step.settled outcome).key = step.key := rfl

@[simp] theorem outcome_settled (step : Step World)
    (outcome : Except StepError (Engine World)) :
    (step.settled outcome).outcome = some outcome := rfl

end Step

end CodeFormatting
