import CodeFormatting.Npm.Error
import CodeFormatting.SearchPath
namespace CodeFormatting.Npm

open SearchPath (Search)

/-! The executable is the file that is named in the environment, else the one in the
directories of the version manager, else the first on the search path. A name that no file
has is reported and passed over. -/

def executableTarget : String :=
  "stylist_npm::executable"

def missingExecutable (path : String) : String :=
  executableVariable ++ " is set to '" ++ path ++ "' but no such file exists"

def namedExecutable (environment : Environment) : Action (Option Path) := do
  match environment.getVisible? executableVariable with
  | none => return none
  | some text =>
    if (← get).isFile ⟨text⟩ then
      log .debug executableTarget ("Using npm from " ++ executableVariable ++ ": " ++ text)
      return some ⟨text⟩
    log .warn executableTarget (missingExecutable text)
    return none

def npmIn (directory : String) : Path :=
  Path.join ⟨directory⟩ ⟨"npm"⟩

/-- The executable in the directory that a variable names. -/
def inDirectory (environment : Environment) (name : String) : Action (Option Path) := do
  match environment.getVisible? name with
  | none => return none
  | some directory =>
    if (← get).isFile (npmIn directory) then
      log .debug executableTarget
        ("Using npm from " ++ name ++ ": " ++ (npmIn directory).text)
      return some (npmIn directory)
    log .trace executableTarget (name ++ " is set but " ++ directory ++ " has no npm")
    return none

def onSearchPath (search : Search) (environment : Environment) : Action (Option Path) := do
  match search.on (← get) environment with
  | some npm =>
    log .debug executableTarget ("Using npm from PATH: " ++ npm.text)
    return some npm
  | none =>
    log .trace executableTarget ("npm not found on PATH: " ++ SearchPath.refusal environment)
    return none

/-- Searches one place after the other until something is found. -/
def firstFound : List (Action (Option Path)) → Action (Option Path)
  | [] => return none
  | search :: rest => do
    match ← search with
    | some npm => return some npm
    | none => firstFound rest

def findExecutableBy (search : Search) (environment : Environment) : Action (Option Path) :=
  firstFound
    [namedExecutable environment, inDirectory environment binVariable,
      inDirectory environment symlinkVariable, onSearchPath search environment]

def findExecutable (environment : Environment) : Action (Option Path) :=
  findExecutableBy (SearchPath.first "npm") environment

end CodeFormatting.Npm
