import CodeFormatting.IoError
import CodeFormatting.Path
namespace CodeFormatting.Npm

/-! Why npm or its configuration could not be found. -/

def executableVariable : String :=
  "STYLIST_NPM"

def binVariable : String :=
  "NVM_BIN"

def symlinkVariable : String :=
  "NVM_SYMLINK"

/-- Where the executable is looked for and how else it can be set. -/
def explanation : String :=
  "npm is looked for in the following places, in order:\n" ++
    "- the executable named by the environment variable " ++ executableVariable ++ "\n" ++
    "- the directory named by the environment variable " ++ binVariable ++ " (set by nvm)\n" ++
    "- the directory named by the environment variable " ++ symlinkVariable ++
    " (set by nvm-windows)\n" ++
    "- the directories on the PATH\n\n" ++
    "If npm is installed somewhere else, set " ++ executableVariable ++
    ", or configure the executable explicitly with `executable` in the [npm] section of " ++
      "stylist.toml or the `--executable` flag."

inductive NpmError
  | executableNotFound
  | readNpmrc (path : Path) (cause : IoError)
  deriving DecidableEq, Repr

namespace NpmError

def notFoundMessage (explanation : String) : String :=
  "Can't automatically determine npm executable and none was specifically supplied!\n\n" ++
    explanation

def message : NpmError → String
  | .executableNotFound => notFoundMessage explanation
  | .readNpmrc path _ => "Failed to read npmrc file '" ++ path.text ++ "'"

def causes : NpmError → List String
  | .executableNotFound => []
  | .readNpmrc _ cause => [cause.message]

end NpmError

end CodeFormatting.Npm
