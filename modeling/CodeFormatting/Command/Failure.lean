import CodeFormatting.Config.Load
import CodeFormatting.Npm.Error
import CodeFormatting.Step.Error
import CodeFormatting.Text.Pieces
namespace CodeFormatting.Command

/-! Why a command could not do its work. A failure is reported with its message and with
the messages of the errors behind it, which are numbered if there are several. -/

inductive Failure
  | config (error : ConfigError)
  | style (error : Ktfmt.InvalidStyle)
  | step (error : StepError)
  | format (error : FormatError)
  | input (cause : IoError)
  | npm (error : Npm.NpmError)
  deriving DecidableEq, Repr

namespace Failure

def message : Failure → String
  | .config error => error.message
  | .style error => error.message
  | .step error => error.message
  | .format error => error.message
  | .input _ => "Failed to read stdin"
  | .npm error => error.message

def causes : Failure → List String
  | .config error => error.causes
  | .style _ => []
  | .step error => error.causes
  | .format error => error.causes
  | .input cause => [cause.message]
  | .npm error => error.causes

/-- A text with something in front of its first line and something else in front of
the others. -/
def indented (first others text : String) : String :=
  first ++ ("\n" ++ others).intercalate (Text.pieces '\n' text)

def numbered (index : Nat) (cause : String) : String :=
  let number := toString index
  indented (String.ofList (List.replicate (5 - number.length) ' ') ++ number ++ ": ")
    "       " cause

def causesText : List String → String
  | [] => ""
  | [cause] => "\n\nCaused by:\n" ++ indented "    " "    " cause
  | causes => "\n\nCaused by:\n" ++ "\n".intercalate (causes.mapIdx numbered)

def report (failure : Failure) : String :=
  "Error: " ++ failure.message ++ causesText failure.causes ++ "\n"

end Failure

/-- A message and the messages behind it on one line. -/
def chained (message : String) (causes : List String) : String :=
  ": ".intercalate (message :: causes)

end CodeFormatting.Command
