import CodeFormatting.Environment
import CodeFormatting.Machine
namespace CodeFormatting

/-! A search path lists directories between colons. The first directory that holds
a program of the wanted name wins. A leading tilde stands for the home directory, a relative
directory is put after the working directory, and an empty entry is the working
directory itself. -/

namespace SearchPath

/-- The base with further components after it, each added by itself. -/
def extended (base : Path) (components : List Path.Component) : Path :=
  components.foldl (fun path component =>
    match component with
    | .normal name => path.join ⟨name⟩
    | .parent => path.join ⟨".."⟩
    | .root => ⟨"/"⟩
    | .current => path) base

def expanded (home : Option Path) (entry : Path) : Path :=
  match home, entry.components with
  | some home, .normal "~" :: rest => extended home rest
  | _, _ => entry

def absolute (directory entry : Path) : Path :=
  if entry.isAbsolute then entry else extended directory entry.components

/-- An entry seen from a directory. A home directory that begins with a tilde itself stays
as it is. -/
def located (home : Option Path) (directory entry : Path) : Path :=
  let entry := expanded home entry
  match entry.components with
  | .normal "~" :: _ => entry
  | _ => absolute directory entry

/-- The directories that a search path lists, as paths seen from a directory. -/
def directories (home : Option Path) (directory : Path) (text : String) : List Path :=
  (Text.pieces ':' text).map fun entry => located home directory ⟨entry⟩

def refusal (environment : Environment) : String :=
  match environment.getVisible? "PATH" with
  | none => "no path to search and provided name is not an absolute path"
  | some _ => "cannot find binary path"

/-- How a program is looked for: by the search path, if there is one, the home directory, the
working directory and the files. -/
abbrev Search := Option String → Option Path → Path → FileSystem → Option Path

def Search.on (search : Search) (machine : Machine) (environment : Environment) : Option Path :=
  search (environment.getVisible? "PATH") machine.home machine.directory machine.files

/-- Looks for the first program of a name in the directories of a search path. -/
def first (name : String) : Search
  | none, _, _, _ => none
  | some text, home, directory, files =>
    ((directories home directory text).map (·.join ⟨name⟩)).find?
      (files.isProgram (FileSystem.locationOf directory))

end SearchPath

end CodeFormatting
