import CodeFormatting.Artifact.Error
import CodeFormatting.Engine
namespace CodeFormatting

/-! Why a step could not be made or initialized, and why a text could not be formatted
with it. An error that only passes another one on has the message and the causes
of that one. -/

inductive StepError
  | missingArgument (name : String)
  | configuration (text : String)
  | provision (error : ProvisionError)
  | load (error : EngineError)
  | serialize (text : String)
  deriving DecidableEq, Repr

namespace StepError

def message : StepError → String
  | .missingArgument name => "Missing required argument '" ++ name ++ "'"
  | .configuration text => "Invalid configuration: " ++ text
  | .provision error => error.message
  | .load error => "Failed to load formatter: " ++ error.message
  | .serialize text => text

def causes : StepError → List String
  | .load error => error.message :: error.causes
  | _ => []

end StepError

inductive FormatError
  | initialization (error : StepError)
  | delegate (error : EngineError)
  deriving DecidableEq, Repr

namespace FormatError

def message : FormatError → String
  | .initialization error => error.message
  | .delegate error => error.message

def causes : FormatError → List String
  | .initialization error => error.causes
  | .delegate error => error.causes

end FormatError

end CodeFormatting
