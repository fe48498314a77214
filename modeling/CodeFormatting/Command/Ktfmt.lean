import CodeFormatting.Command.Arguments
import CodeFormatting.Command.Failure
import CodeFormatting.Files.Batch
import CodeFormatting.Ktfmt.Java
namespace CodeFormatting.Command

/-! The command that formats. Without files it formats its input; with files it formats
those, and says what became of them. -/

/-- What a command that did its work has written and whether it succeeded. -/
structure Result where
  output : String
  success : Bool
  deriving DecidableEq, Repr

def commandTarget : String :=
  "stylist"

namespace KtfmtArguments

/-- What is set by an argument comes before what is set in the configuration. -/
def onto (arguments : KtfmtArguments) (config : KtfmtConfig) : KtfmtConfig :=
  { version := arguments.version.or config.version
    style := (arguments.style.map Ktfmt.Style.name).or config.style
    repository := arguments.repository.or config.repository
    java := arguments.java.or config.java }

def mode (arguments : KtfmtArguments) : Files.Mode :=
  if arguments.check then .check else .write

end KtfmtArguments

/-- The repository that is set, else the one of the environment. -/
def repositoryOf (environment : Environment) (home : Option Path) (config : KtfmtConfig) :
    Except ProvisionError Repository :=
  match config.repository with
  | some root => .ok ⟨root⟩
  | none => Repository.ofEnvironment environment home

def stepOf (environment : Environment) (home : Option Path) (config : KtfmtConfig) :
    Except Failure (Step Machine) :=
  match repositoryOf environment home config with
  | .error error => .error (.step (.provision error))
  | .ok repository =>
    match config.effectiveStyle with
    | .error error => .error (.style error)
    | .ok style =>
      let java : Ktfmt.JavaLoader := { environment, java := config.java, mainClass := none }
      match Ktfmt.Builder.standardStep config.effectiveVersion repository.provisioner style
          java.loader with
      | .error error => .error (.step error)
      | .ok step => .ok step

/-- How a formatted input is answered: as it is, or by whether it differs. -/
def inputResult (mode : Files.Mode) (given formatted : String) : Result :=
  match mode with
  | .write => ⟨formatted, true⟩
  | .check => if formatted = given then ⟨"", true⟩ else ⟨"<stdin>\n", false⟩

def formatInput (step : Step Machine) (mode : Files.Mode) (input : ByteArray) :
    Action (Except Failure Result) :=
  match String.fromUTF8? input with
  | none => pure (.error (.input .invalidText))
  | some given => do
    match (← step.format given).1 with
    | .error error => return .error (.format error)
    | .ok formatted => return .ok (inputResult mode given formatted)

/-! Reports -/

def errorsOf (reports : List Files.Report) : List Files.FileError :=
  reports.filterMap fun report =>
    match report.outcome with
    | .error error => some error
    | .ok _ => none

def isChanged (report : Files.Report) : Bool :=
  match report.outcome with
  | .ok outcome => outcome.isChanged
  | .error _ => false

/-- The files that were or would be changed, in the order of paths. -/
def changedPaths (reports : List Files.Report) : List Path :=
  ((reports.filter isChanged).map (·.path)).mergeSort
    fun left right => (left.compare right).isLE

def linesOf (paths : List Path) : String :=
  String.join (paths.map (·.text ++ "\n"))

def errorText (error : Files.FileError) : String :=
  chained error.message error.causes

def logErrors : List Files.FileError → Action Unit
  | [] => return ()
  | error :: rest => do
    log .error commandTarget (errorText error)
    logErrors rest

def summary (changed total : Nat) : String :=
  "Formatted " ++ toString changed ++ " of " ++ toString total ++ " file(s)"

/-- Every error is logged. A check lists the files that would change and fails if there
are any; otherwise the number of changed files is logged. -/
def conclude (mode : Files.Mode) (reports : List Files.Report) : Action Result := do
  let errors := errorsOf reports
  let changed := changedPaths reports
  logErrors errors
  match mode with
  | .check => return ⟨linesOf changed, errors.isEmpty && changed.isEmpty⟩
  | .write =>
    log .info commandTarget (summary changed.length reports.length)
    return ⟨"", errors.isEmpty⟩

def ktfmt (environment : Environment) (arguments : KtfmtArguments) (config : KtfmtConfig)
    (input : ByteArray) : Action (Except Failure Result) := do
  match stepOf environment (← get).home (arguments.onto config) with
  | .error error => return .error error
  | .ok step =>
    if arguments.files.isEmpty then formatInput step arguments.mode input
    else
      let (reports, _) ← Files.formatFiles arguments.mode arguments.files step
      return .ok (← conclude arguments.mode reports)

end CodeFormatting.Command
