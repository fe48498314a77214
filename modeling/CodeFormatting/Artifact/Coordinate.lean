import CodeFormatting.Json.Printer
import CodeFormatting.Path
import CodeFormatting.Text.Blank
namespace CodeFormatting

/-! An artifact is identified by a group, a name, a version and an optional
classifier. Its text separates the parts by colons, and blanks around a part do not
count. -/

structure Coordinate where
  group : String
  artifact : String
  version : String
  classifier : Option String := none
  deriving DecidableEq, Repr, Inhabited

namespace Coordinate

def text (coordinate : Coordinate) : String :=
  coordinate.group ++ ":" ++ coordinate.artifact ++ ":" ++ coordinate.version ++
    match coordinate.classifier with
    | some classifier => ":" ++ classifier
    | none => ""

/-- Three or four parts, none of them blank. -/
def parse? (text : String) : Option Coordinate :=
  let parts := (Text.pieces ':' text).map Text.trim
  if parts.any String.isEmpty then none
  else
    match parts with
    | [group, artifact, version] => some { group, artifact, version }
    | [group, artifact, version, classifier] =>
      some { group, artifact, version, classifier := some classifier }
    | _ => none

def fileName (coordinate : Coordinate) : String :=
  match coordinate.classifier with
  | some classifier =>
    coordinate.artifact ++ "-" ++ coordinate.version ++ "-" ++ classifier ++ ".jar"
  | none => coordinate.artifact ++ "-" ++ coordinate.version ++ ".jar"

/-- The text that asks for the jar by command, with the packaging in front of the
classifier. -/
def request (coordinate : Coordinate) : String :=
  coordinate.group ++ ":" ++ coordinate.artifact ++ ":" ++ coordinate.version ++
    match coordinate.classifier with
    | some classifier => ":jar:" ++ classifier
    | none => ""

/-- Where a repository keeps the jar: a directory for each piece of the group, one for
the artifact and one for the version. -/
def repositoryPath (coordinate : Coordinate) : Path :=
  Path.joinAll ⟨""⟩ (Text.pieces '.' coordinate.group ++
    [coordinate.artifact, coordinate.version, coordinate.fileName])

def toJson (coordinate : Coordinate) : Json :=
  .object ([("group", .string coordinate.group), ("artifact", .string coordinate.artifact),
    ("version", .string coordinate.version)] ++
      match coordinate.classifier with
      | some classifier => [("classifier", .string classifier)]
      | none => [])

def classifierOfJson? : Json → Option (Option String)
  | .null => some none
  | .string classifier => some (some classifier)
  | _ => none

/-- An object, whose further members do not count, or an array of the parts. -/
def ofJson? : Json → Option Coordinate
  | .object members => do
    let .string group ← Json.member? "group" members | none
    let .string artifact ← Json.member? "artifact" members | none
    let .string version ← Json.member? "version" members | none
    let classifier ← classifierOfJson? ((Json.member? "classifier" members).getD .null)
    return { group, artifact, version, classifier }
  | .array [.string group, .string artifact, .string version] =>
    some { group, artifact, version }
  | .array [.string group, .string artifact, .string version, classifier] => do
    let classifier ← classifierOfJson? classifier
    return { group, artifact, version, classifier }
  | _ => none

def compareClassifiers : Option String → Option String → Ordering
  | none, none => .eq
  | none, some _ => .lt
  | some _, none => .gt
  | some left, some right => Ord.compare left right

/-- Part by part, a coordinate without a classifier first. -/
def compare (left right : Coordinate) : Ordering :=
  ((Ord.compare left.group right.group).then (Ord.compare left.artifact right.artifact)).then
    ((Ord.compare left.version right.version).then
      (compareClassifiers left.classifier right.classifier))

end Coordinate

end CodeFormatting
