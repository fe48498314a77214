import CodeFormatting.Text.Pieces
namespace CodeFormatting

/-! A log record has a level, the part of the program it comes from and a text. -/

namespace Log

inductive Level
  | error
  | warn
  | info
  | debug
  | trace
  deriving DecidableEq, Repr

structure Record where
  level : Level
  target : String
  text : String
  deriving DecidableEq, Repr

namespace Level

def all : List Level :=
  [.error, .warn, .info, .debug, .trace]

/-- How much a level lets through: every more severe level is below it. -/
def verbosity : Level → Nat
  | .error => 1
  | .warn => 2
  | .info => 3
  | .debug => 4
  | .trace => 5

def name : Level → String
  | .error => "ERROR"
  | .warn => "WARN"
  | .info => "INFO"
  | .debug => "DEBUG"
  | .trace => "TRACE"

def label (level : Level) : String :=
  String.ofList (level.name.toList ++ List.replicate (5 - level.name.length) ' ')

end Level

/-- The lines of a record as they are printed: later lines of a text are indented. -/
def Record.lines (record : Record) : List String :=
  let start := "[" ++ record.level.label ++ " " ++ record.target ++ "] "
  match Text.pieces '\n' record.text with
  | [] => [start]
  | first :: rest => (start ++ first) :: rest.map ("    " ++ ·)

end Log

end CodeFormatting
