import CodeFormatting.Artifact.Coordinate
import CodeFormatting.IoError
namespace CodeFormatting

/-! Why an artifact could not be provided, or not even be named. -/

inductive ProvisionError
  | invalidCoordinate (text : String)
  | notFound (coordinate : Coordinate) (path : Path)
  | noRepository
  | io (error : IoError)
  deriving DecidableEq, Repr

namespace ProvisionError

def message : ProvisionError → String
  | .invalidCoordinate text =>
    "Invalid artifact coordinate '" ++ text ++
      "', expected 'group:artifact:version[:classifier]'"
  | .notFound coordinate path =>
    "Could not provision artifact '" ++ coordinate.text ++ "': nothing at '" ++ path.text ++
      "'. Install it into the local repository (for example with `mvn dependency:get " ++
      "-Dartifact=" ++ coordinate.request ++
      "`) or configure a repository that contains it."
  | .noRepository =>
    "No local artifact repository could be determined: set M2_REPO or configure an " ++
      "explicit repository path"
  | .io error => error.message

end ProvisionError

/-- The coordinate that a text is read as. -/
def Coordinate.parse (text : String) : Except ProvisionError Coordinate :=
  match Coordinate.parse? text with
  | some coordinate => .ok coordinate
  | none => .error (.invalidCoordinate text)

end CodeFormatting
