import CodeFormatting.Machine
import CodeFormatting.Step.Basic
namespace CodeFormatting.Files

/-! A file is read, formatted and compared with what it was. Only a file that differs is
written, and only where that is asked for. -/

inductive Mode
  | write
  | check
  deriving DecidableEq, Repr

def Mode.name : Mode → String
  | .write => "Write"
  | .check => "Check"

inductive Outcome
  | unchanged
  | formatted
  | wouldFormat
  deriving DecidableEq, Repr

def Outcome.isChanged : Outcome → Bool
  | .unchanged => false
  | .formatted => true
  | .wouldFormat => true

inductive FileError
  | read (path : Path) (cause : IoError)
  | write (path : Path) (cause : IoError)
  | format (path : Path) (cause : FormatError)
  deriving DecidableEq, Repr

namespace FileError

def message : FileError → String
  | .read path _ => "Failed to read '" ++ path.text ++ "'"
  | .write path _ => "Failed to write '" ++ path.text ++ "'"
  | .format path _ => "Failed to format '" ++ path.text ++ "'"

def causes : FileError → List String
  | .read _ cause => [cause.message]
  | .write _ cause => [cause.message]
  | .format _ cause => cause.message :: cause.causes

end FileError

def filesTarget : String :=
  "stylist::files"

structure Report where
  path : Path
  outcome : Except FileError Outcome

/-- Opens a file to write it, which empties it. -/
def openFile (path : Path) : Action (Except IoError Location) := fun machine =>
  match machine.files.openEmpty machine.location path with
  | .ok (location, files) => (.ok location, { machine with files })
  | .error error => (.error error, machine)

def fillFile (location : Location) (text : String) : Action (Except IoError Unit) :=
  fun machine =>
    let (files, answer) := machine.files.fill location text.toUTF8
    (answer, { machine with files })

/-- Opens a file and writes a text to it. Either may fail, and once it is open the file
has lost what it held. -/
def writeText (path : Path) (text : String) : Action (Except IoError Unit) := do
  match ← openFile path with
  | .error error => return .error error
  | .ok location => fillFile location text

/-- Writes a text that differs from the one that was read. -/
def writeChanged (path : Path) (text : String) : Action (Except FileError Outcome) := do
  match ← writeText path text with
  | .error error => return .error (.write path error)
  | .ok () =>
    log .debug filesTarget ("Formatted " ++ path.text)
    return .ok .formatted

/-- What becomes of a file once its text has been formatted. -/
def settle (mode : Mode) (path : Path) (content formatted : String) :
    Action (Except FileError Outcome) :=
  if formatted = content then do
    log .trace filesTarget (path.text ++ " is already formatted")
    return .ok .unchanged
  else
    match mode with
    | .check => pure (.ok .wouldFormat)
    | .write => writeChanged path formatted

def formatFile (mode : Mode) (path : Path) (step : Step Machine) :
    Action (Except FileError Outcome × Step Machine) := do
  match (← get).readText path with
  | .error error => return (.error (.read path error), step)
  | .ok content =>
    let (answer, step) ← step.format content
    match answer with
    | .error error => return (.error (.format path error), step)
    | .ok formatted => return (← settle mode path content formatted, step)

end CodeFormatting.Files
