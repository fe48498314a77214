import CodeFormatting.IoError
import CodeFormatting.Ktfmt.Version
import CodeFormatting.Path
namespace CodeFormatting.Ktfmt

/-! Why the options of a style could not be read, and why the formatter could not be
run. Every error has a message; the causes are the messages of the errors behind it,
the nearest first. -/

inductive LookupError
  | fieldNotFound (name : String)
  | methodNotFound (name : String)
  | inaccessible (name reason : String)
  deriving DecidableEq, Repr

def LookupError.message : LookupError → String
  | .fieldNotFound name => "No field '" ++ name ++ "' on com.facebook.ktfmt.FormatterKt"
  | .methodNotFound name =>
    "No method '" ++ name ++ "' on com.facebook.ktfmt.FormattingOptions$Companion"
  | .inaccessible name reason =>
    "Accessor '" ++ name ++ "' exists but could not be read: " ++ reason

inductive JavaError
  | javaNotFound
  | invalidVersion (text : String)
  | invalidClasspath
  | startFailed (java : Path) (cause : IoError)
  | exited (code : Option Int) (errors : String)
  | outputNotText (flaw : String)
  | writerLost
  | io (error : IoError)
  deriving DecidableEq, Repr

namespace JavaError

def separatorInPath : String :=
  "path segment contains separator `:`"

def exitText : Option Int → String
  | some code => "status " ++ toString code
  | none => "a signal"

def message : JavaError → String
  | .javaNotFound =>
    "Can't find a java executable. Set JAVA_HOME, put java on the PATH or configure an " ++
      "explicit java path."
  | .invalidVersion text => "Invalid ktfmt version '" ++ text ++ "'"
  | .invalidClasspath => "Invalid classpath: " ++ separatorInPath
  | .startFailed java cause => "Failed to start '" ++ java.text ++ "': " ++ cause.message
  | .exited code errors => "ktfmt exited with " ++ exitText code ++ ": " ++ errors
  | .outputNotText _ => "ktfmt produced output that is not valid UTF-8"
  | .writerLost => "The thread writing to ktfmt's stdin panicked"
  | .io error => error.message

def causes : JavaError → List String
  | .invalidClasspath => [separatorInPath]
  | .startFailed _ cause => [cause.message]
  | .outputNotText flaw => [flaw]
  | _ => []

end JavaError

/-- The release that a text is read as. -/
def Version.parse (text : String) : Except JavaError Version :=
  match Version.parse? text with
  | some version => .ok version
  | none => .error (.invalidVersion text)

end CodeFormatting.Ktfmt
