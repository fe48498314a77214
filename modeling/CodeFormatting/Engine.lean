import CodeFormatting.Ktfmt.Error
namespace CodeFormatting

/-! An engine turns a text into a formatted text or rejects it, and may change the
world it runs in. Its errors are passed on as they are. -/

inductive EngineError
  | java (error : Ktfmt.JavaError)
  | lookup (error : Ktfmt.LookupError)
  | io (error : IoError)
  | rejected (text : String)
  deriving DecidableEq, Repr

namespace EngineError

def message : EngineError → String
  | .java error => error.message
  | .lookup error => error.message
  | .io error => error.message
  | .rejected text => text

def causes : EngineError → List String
  | .java error => error.causes
  | _ => []

end EngineError

abbrev Engine (World : Type) := String → StateM World (Except EngineError String)

end CodeFormatting
