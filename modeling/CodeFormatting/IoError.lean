namespace CodeFormatting

/-! Why the operating system refused an operation on a file or a program. -/

inductive IoError
  | notFound
  | permissionDenied
  | notADirectory
  | isADirectory
  | nameTooLong
  | notAProgram
  | brokenPipe
  | invalidText
  | nulInName
  | nulInLaunch
  | invalidArgument
  | notEmpty
  | other (text : String)
  deriving DecidableEq, Repr, Inhabited

namespace IoError

def message : IoError → String
  | .notFound => "No such file or directory (os error 2)"
  | .permissionDenied => "Permission denied (os error 13)"
  | .notADirectory => "Not a directory (os error 20)"
  | .isADirectory => "Is a directory (os error 21)"
  | .nameTooLong => "File name too long (os error 36)"
  | .notAProgram => "Exec format error (os error 8)"
  | .brokenPipe => "Broken pipe (os error 32)"
  | .invalidText => "stream did not contain valid UTF-8"
  | .nulInName => "file name contained an unexpected NUL byte"
  | .nulInLaunch => "nul byte found in provided data"
  | .invalidArgument => "Invalid argument (os error 22)"
  | .notEmpty => "Directory not empty (os error 39)"
  | .other text => text

/-- The reason without the number that the operating system gives it. -/
def reason (error : IoError) : String :=
  ((error.message.splitOn " (os error ").head?).getD error.message

end IoError

end CodeFormatting
