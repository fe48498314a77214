import CodeFormatting.Command.Npm
import CodeFormatting.Log.Filter
import CodeFormatting.Text.ControlSequence
namespace CodeFormatting.Command

/-! A run of the program reads its arguments and its configuration and carries out the
command. It ends with an exit code and with what it has written to its two outputs. -/

structure Call where
  environment : Environment
  arguments : List String
  input : ByteArray

structure Ending where
  code : Nat
  output : String
  errors : String
  deriving DecidableEq, Repr

/-- The records that are printed: set for this program, else in general, else what is of
interest to its user. -/
def filterText (environment : Environment) : String :=
  environment.getOr "STYLIST_LOG" (environment.getOr "RUST_LOG" "stylist=info")

def configOf (machine : Machine) (arguments : Arguments) : Except ConfigError Config :=
  match arguments.config with
  | some path => Config.load machine path
  | none => Config.discover machine machine.directory

def perform (call : Call) (arguments : Arguments) : Action (Except Failure Result) := do
  match configOf (← get) arguments with
  | .error error => return .error (.config error)
  | .ok config =>
    log .trace commandTarget ("config=" ++ config.description)
    match arguments.task with
    | .ktfmt given => ktfmt call.environment given config.ktfmt call.input
    | .npm given => npm call.environment given config.npm

/-! Endings -/

def successCode : Nat :=
  0

def failureCode : Nat :=
  1

def usageCode : Nat :=
  2

def warningText (error : Log.InvalidFilter) : String :=
  "warning: " ++ error.message ++ ", ignoring it\n"

/-- A record as it is printed, which is to leave no trace on a terminal but its text. -/
def recordText (record : Log.Record) : String :=
  Text.withoutControls (String.join (record.lines.map (· ++ "\n")))

def recordsText (filter : Log.Filter) (records : List Log.Record) : String :=
  String.join ((records.filter filter.admits).map recordText)

def usageText (error : UsageError) : String :=
  "error: " ++ error.message ++ "\n\nFor more information, try '--help'.\n"

def stopEnding : Stop → Ending
  | .help page => ⟨successCode, page.text, ""⟩
  | .version => ⟨successCode, versionText, ""⟩
  | .usage error => ⟨usageCode, "", usageText error⟩

def endingOf (records : String) : Except Failure Result → Ending
  | .ok result =>
    ⟨if result.success then successCode else failureCode, result.output, records⟩
  | .error failure => ⟨failureCode, "", records ++ failure.report⟩

def runParsed (filter : Log.Filter) (call : Call) (arguments : Arguments) : Action Ending := do
  let result ← perform call arguments
  return endingOf (recordsText filter (← get).records) result

def run (call : Call) : Action Ending := do
  let (invalid, filter) := Log.Filter.parse (filterText call.environment)
  let ending ← match Arguments.parse call.arguments with
    | .error stop => pure (stopEnding stop)
    | .ok arguments => runParsed filter call arguments
  return { ending with errors := String.join (invalid.map warningText) ++ ending.errors }

end CodeFormatting.Command
