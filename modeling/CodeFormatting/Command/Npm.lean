import CodeFormatting.Command.Ktfmt
import CodeFormatting.Npm.Resolver
namespace CodeFormatting.Command

/-! The command that shows which npm and which configuration of it would be used. -/

structure NpmAnswer where
  executable : Path
  npmrc : Option Path
  content : Option String
  deriving DecidableEq, Repr

namespace NpmAnswer

def pathJson : Option Path → Json
  | some path => .string path.text
  | none => .null

def lengthJson : Option String → Json
  | some content => .integer content.utf8ByteSize
  | none => .null

def toJson (answer : NpmAnswer) : Json :=
  .object [("executable", .string answer.executable.text),
    ("npmrc", pathJson answer.npmrc), ("npmrc_length", lengthJson answer.content)]

def npmrcText (answer : NpmAnswer) : String :=
  match answer.npmrc with
  | some path => path.text
  | none => "none"

def text (answer : NpmAnswer) : Layout → String
  | .json => answer.toJson.compact ++ "\n"
  | .raw =>
    "npm: " ++ answer.executable.text ++ "\nnpmrc: " ++ answer.npmrcText ++ "\n"

end NpmAnswer

namespace NpmArguments

/-- What is set by an argument comes before what is set in the configuration. -/
def onto (arguments : NpmArguments) (config : NpmConfig) : NpmConfig :=
  { executable := arguments.executable.or config.executable
    npmrc := arguments.npmrc.or config.npmrc
    npmrcLocations :=
      if arguments.locations.isEmpty then config.npmrcLocations else arguments.locations }

end NpmArguments

/-- The locations that are set, else the usual ones. -/
def locationsOf (environment : Environment) (machine : Machine) (config : NpmConfig) :
    List Path :=
  if config.npmrcLocations.isEmpty then
    Npm.defaultLocations environment machine.home machine.directory
  else config.npmrcLocations

def resolverOf (environment : Environment) (machine : Machine) (config : NpmConfig) :
    Npm.Resolver :=
  { environment
    executable := config.executable
    npmrc := config.npmrc
    locations := locationsOf environment machine config }

/-- The executable comes first. Then the configuration file is looked for twice, for its
name and for its text. -/
def resolveBy (search : SearchPath.Search) (resolver : Npm.Resolver) :
    Action (Except Npm.NpmError NpmAnswer) := do
  match ← resolver.resolveExecutableBy search with
  | .error error => return .error error
  | .ok executable =>
    resolver.noteNpmrc
    resolver.noteNpmrc
    resolver.noteReading
    let machine ← get
    match resolver.npmrcContent machine with
    | .error error => return .error error
    | .ok content => return .ok ⟨executable, resolver.npmrcFile? machine, content⟩

def npmBy (search : SearchPath.Search) (environment : Environment) (arguments : NpmArguments)
    (config : NpmConfig) : Action (Except Failure Result) := do
  let resolver := resolverOf environment (← get) (arguments.onto config)
  match ← resolveBy search resolver with
  | .error error => return .error (.npm error)
  | .ok answer => return .ok ⟨answer.text (arguments.layout.getD .raw), true⟩

def npm (environment : Environment) (arguments : NpmArguments) (config : NpmConfig) :
    Action (Except Failure Result) :=
  npmBy (SearchPath.first "npm") environment arguments config

end CodeFormatting.Command
