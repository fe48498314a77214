import CodeFormatting.Npm.Executable
import CodeFormatting.Text.Quoted
namespace CodeFormatting.Npm

/-! What was set explicitly is taken as it is, whether it exists or not. What was not is
looked for at every call. -/

structure Resolver where
  environment : Environment
  executable : Option Path
  npmrc : Option Path
  locations : List Path
  deriving DecidableEq, Repr

/-- Where the configuration of npm is looked for, the most specific place first. -/
def defaultLocations (environment : Environment) (home : Option Path) (project : Path) :
    List Path :=
  let userHome : Option Path :=
    match environment.getVisible? "HOME" with
    | some home => some ⟨home⟩
    | none => home
  [project.join ⟨".npmrc"⟩] ++
    ((environment.getVisible? "NPM_CONFIG_USERCONFIG").map Path.mk).toList ++
    (userHome.map (·.join ⟨".npmrc"⟩)).toList

def resolverTarget : String :=
  "stylist_npm"

def npmrcTarget : String :=
  "stylist_npm::npmrc"

def findNpmrc? (machine : Machine) (locations : List Path) : Option Path :=
  locations.find? machine.isFile

namespace Resolver

/-- The executable that was set, else the first that is found, with a search at the end. -/
def resolveExecutableBy (search : SearchPath.Search) (resolver : Resolver) :
    Action (Except NpmError Path) := do
  match resolver.executable with
  | some npm =>
    log .debug resolverTarget ("Using explicit npm executable " ++ npm.text)
    return .ok npm
  | none =>
    match ← findExecutableBy search resolver.environment with
    | some npm => return .ok npm
    | none => return .error .executableNotFound

def resolveExecutable (resolver : Resolver) : Action (Except NpmError Path) :=
  resolver.resolveExecutableBy (SearchPath.first "npm")

def npmrcFile? (resolver : Resolver) (machine : Machine) : Option Path :=
  match resolver.npmrc with
  | some npmrc => some npmrc
  | none => findNpmrc? machine resolver.locations

/-- Notes which configuration file was found, unless it was set. -/
def noteNpmrc (resolver : Resolver) : Action Unit := do
  match resolver.npmrc, resolver.npmrcFile? (← get) with
  | some _, _ => return ()
  | none, some npmrc => log .debug npmrcTarget ("Using npmrc " ++ npmrc.text)
  | none, none =>
    log .trace npmrcTarget
      ("No npmrc among " ++ toString resolver.locations.length ++ " location(s)")

/-- Notes which configuration file is about to be read. -/
def noteReading (resolver : Resolver) : Action Unit := do
  match resolver.npmrcFile? (← get) with
  | some npmrc => log .trace resolverTarget ("Reading npmrc from " ++ npmrc.text)
  | none => return ()

/-- The text of the configuration file, if there is one. -/
def npmrcContent (resolver : Resolver) (machine : Machine) :
    Except NpmError (Option String) :=
  match resolver.npmrcFile? machine with
  | none => .ok none
  | some path =>
    match machine.readText path with
    | .ok text => .ok (some text)
    | .error error => .error (.readNpmrc path error)

def description (resolver : Resolver) : String :=
  "NpmPathResolver \x7b explicit_npm_executable: " ++
    Text.quotedOption (resolver.executable.map Path.text) ++
    ", explicit_npmrc_file: " ++ Text.quotedOption (resolver.npmrc.map Path.text) ++
    ", additional_npmrc_locations: " ++ Text.quotedList (resolver.locations.map Path.text) ++
    ", .. \x7d"

end Resolver

end CodeFormatting.Npm
