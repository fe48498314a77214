import CodeFormatting.FileSystem
import CodeFormatting.Log
namespace CodeFormatting

/-! A machine is what a run can read and change: its files, the working directory, the
home directory and the programs it can start. It keeps a journal of the log records
written and of the programs started so far, the earliest first. Where tasks run at the same
time, the machine decides which of them acts next. -/

/-- A program to be started with arguments and a text for its standard input. -/
structure Launch where
  program : Path
  arguments : List String
  input : String
  deriving DecidableEq, Repr

inductive ExitStatus
  | exited (code : Int)
  | signalled
  deriving DecidableEq, Repr

structure Completion where
  written : Except IoError Unit
  status : ExitStatus
  output : ByteArray
  errors : ByteArray

inductive Event
  | logged (record : Log.Record)
  | started (launch : Launch)
  deriving DecidableEq, Repr

/-- Starts a program in a directory and waits until it ends. -/
abbrev Executor := FileSystem → Path → Launch → FileSystem × Except IoError Completion

/-- The schedule has the turns that tasks take before they are let go round, one by one. -/
structure Machine where
  files : FileSystem
  directory : Path
  home : Option Path
  execute : Executor
  journal : List Event
  schedule : List Nat := []

abbrev Action := StateM Machine

/-- A world that has a machine in it, on which it can do what a machine does. -/
class HasMachine (World : Type) where
  onMachine {Answer : Type} (action : Action Answer) : StateM World Answer

instance : HasMachine Machine where
  onMachine action := action

@[simp] theorem HasMachine.onMachine_eq {Answer : Type} (action : Action Answer) :
    onMachine action = action := rfl

namespace Machine

def location (machine : Machine) : Location :=
  FileSystem.locationOf machine.directory

def locate (machine : Machine) (path : Path) : Except IoError Location :=
  machine.files.locate machine.location path

def isFile (machine : Machine) (path : Path) : Bool :=
  machine.files.isFile machine.location path

def readText (machine : Machine) (path : Path) : Except IoError String :=
  machine.files.readText machine.location path

def records (machine : Machine) : List Log.Record :=
  machine.journal.filterMap fun
    | .logged record => some record
    | .started _ => none

def launches (machine : Machine) : List Launch :=
  machine.journal.filterMap fun
    | .logged _ => none
    | .started launch => some launch

def record (machine : Machine) (event : Event) : Machine :=
  { machine with journal := machine.journal ++ [event] }

@[simp] theorem files_record (machine : Machine) (event : Event) :
    (machine.record event).files = machine.files := rfl

@[simp] theorem records_record_logged (machine : Machine) (entry : Log.Record) :
    (machine.record (.logged entry)).records = machine.records ++ [entry] := by
  simp [records, record]

@[simp] theorem launches_record_logged (machine : Machine) (entry : Log.Record) :
    (machine.record (.logged entry)).launches = machine.launches := by
  simp [launches, record]

end Machine

def log (level : Log.Level) (target text : String) : Action Unit :=
  modify fun machine => machine.record (.logged ⟨level, target, text⟩)

/-- Starts a program and notes that it was started unless that is refused. -/
def start (launch : Launch) : Action (Except IoError Completion) := fun machine =>
  let (files, answer) := machine.execute machine.files machine.directory launch
  match answer with
  | .ok completion => (.ok completion, { machine with files }.record (.started launch))
  | .error error => (.error error, { machine with files })

end CodeFormatting
