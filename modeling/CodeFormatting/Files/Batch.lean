import CodeFormatting.Files
namespace CodeFormatting.Files

/-! Files that are formatted at the same time. Each file has a task of its own, and the
tasks share one step: the task that claims it runs its initializer, and the others wait
until that has come to an outcome. What a task does falls into actions that nothing comes
between. It reads, formats, opens the file, which empties the file, and writes, and any
action of another task may come between two of these. Every file has a report of its own,
in the order in which they were named. -/

open HasMachine (onMachine)

variable {World : Type}

/-- How far a task has come with the shared step. -/
inductive Use (World : Type)
  | waiting
  | initializing
  | resolved (outcome : Except StepError (Engine World))

inductive Stage (World : Type)
  | arriving
  | holding (content : String) (use : Use World)
  | formatted (content text : String)
  | filling (location : Location) (text : String)
  | finished (outcome : Except FileError Outcome)

/-- The shared step, and whether a task is running its initializer. -/
structure Cell (World : Type) where
  step : Step World
  claimed : Bool

structure Task (World : Type) where
  path : Path
  stage : Stage World

structure Batch (World : Type) where
  cell : Cell World
  tasks : List (Task World)

/-- The next action of a task. One that has to wait stays where it is. -/
def Stage.act [HasMachine World] (mode : Mode) (path : Path) (cell : Cell World) :
    Stage World → StateM World (Stage World × Cell World)
  | .arriving => do
    match (← onMachine get).readText path with
    | .error error => return (.finished (.error (.read path error)), cell)
    | .ok content => return (.holding content .waiting, cell)
  | .holding content .waiting =>
    match cell.step.outcome with
    | some outcome => return (.holding content (.resolved outcome), cell)
    | none =>
      if cell.claimed then return (.holding content .waiting, cell)
      else return (.holding content .initializing, { cell with claimed := true })
  | .holding content .initializing => do
    let outcome ← cell.step.initializer
    return (.holding content (.resolved outcome), ⟨cell.step.settled outcome, false⟩)
  | .holding content (.resolved outcome) => do
    match ← Step.applied outcome content with
    | .error error => return (.finished (.error (.format path error)), cell)
    | .ok text => return (.formatted content text, cell)
  | .formatted content text =>
    if text = content then do
      onMachine (log .trace filesTarget (path.text ++ " is already formatted"))
      return (.finished (.ok .unchanged), cell)
    else
      match mode with
      | .check => return (.finished (.ok .wouldFormat), cell)
      | .write => do
        match ← onMachine (openFile path) with
        | .error error => return (.finished (.error (.write path error)), cell)
        | .ok location => return (.filling location text, cell)
  | .filling location text => do
    match ← onMachine (fillFile location text) with
    | .error error => return (.finished (.error (.write path error)), cell)
    | .ok () =>
      onMachine (log .debug filesTarget ("Formatted " ++ path.text))
      return (.finished (.ok .formatted), cell)
  | .finished outcome => return (.finished outcome, cell)

def Task.report? (task : Task World) : Option Report :=
  match task.stage with
  | .finished outcome => some ⟨task.path, outcome⟩
  | _ => none

/-- The reports of tasks, once each has come to its end. -/
def reportsOf? : List (Task World) → Option (List Report)
  | [] => some []
  | task :: rest =>
    match task.report?, reportsOf? rest with
    | some report, some reports => some (report :: reports)
    | _, _ => none

namespace Batch

def start (paths : List Path) (step : Step World) : Batch World where
  cell := ⟨step, false⟩
  tasks := paths.map fun path => ⟨path, .arriving⟩

def advance [HasMachine World] (mode : Mode) (batch : Batch World) (index : Nat) :
    StateM World (Batch World) :=
  match batch.tasks[index]? with
  | none => return batch
  | some task => do
    let (stage, cell) ← task.stage.act mode task.path batch.cell
    return ⟨cell, batch.tasks.set index { task with stage }⟩

/-- A schedule says which task acts next. -/
def run [HasMachine World] (mode : Mode) : Batch World → List Nat → StateM World (Batch World)
  | batch, [] => return batch
  | batch, index :: rest => do
    let batch ← batch.advance mode index
    run mode batch rest

def reports? (batch : Batch World) : Option (List Report) :=
  reportsOf? batch.tasks

/-- The reports of the tasks that have come to their ends. -/
def reports (batch : Batch World) : List Report :=
  batch.tasks.filterMap Task.report?

end Batch

def runningText (mode : Mode) (step : Step World) (paths : List Path) : String :=
  "Running " ++ step.name ++ " on " ++ toString paths.length ++ " file(s) (" ++ mode.name ++ ")"

def formatTogether [HasMachine World] (mode : Mode) (paths : List Path) (step : Step World)
    (schedule : List Nat) : StateM World (Batch World) := do
  onMachine (log .debug filesTarget (runningText mode step paths))
  (Batch.start paths step).run mode schedule

/-- The schedule in which all tasks act in turn, again and again. -/
def roundRobin (count : Nat) : Nat → List Nat
  | 0 => []
  | rounds + 1 => List.range count ++ roundRobin count rounds

/-- The tasks act as the machine has them act, and then in turn until all have ended. However
far they have come by then, each is done after a round for every stage. -/
def formatFiles [HasMachine World] (mode : Mode) (paths : List Path) (step : Step World) :
    StateM World (List Report × Step World) := do
  let machine ← onMachine get
  let batch ← formatTogether mode paths step (machine.schedule ++ roundRobin paths.length 7)
  return (batch.reports, batch.cell.step)

end CodeFormatting.Files
