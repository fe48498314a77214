import CodeFormatting.Config.Schema
import CodeFormatting.Machine
import CodeFormatting.Toml.Parser
namespace CodeFormatting

/-! A configuration is read from a text that is a document of the right shape and names a
known style. A configuration file is found in a directory by its name. Reading it only asks the
machine, so what traces which file is read, or that there is none, is left out. -/

inductive ConfigError
  | read (path : Path) (cause : IoError)
  | malformed
  | shape (error : ShapeError)
  | invalidStyle (error : Ktfmt.InvalidStyle)
  deriving DecidableEq, Repr

namespace ConfigError

def message : ConfigError → String
  | .read path _ => "Failed to read config file '" ++ path.text ++ "'"
  | .malformed => "TOML parse error"
  | .shape _ => "TOML parse error"
  | .invalidStyle error => error.message

def causes : ConfigError → List String
  | .read _ cause => [cause.message]
  | _ => []

end ConfigError

namespace Config

/-- The configuration of a tree, whose style is checked last. A number without a value is only
passed over in a tree that is a configuration all the same. -/
def ofTree (tree : Toml) : Except ConfigError Config :=
  match Schema.config tree with
  | .error error => .error (if tree.isRepresented then .shape error else .malformed)
  | .ok config =>
    match config.ktfmt.effectiveStyle with
    | .error error => .error (.invalidStyle error)
    | .ok _ => .ok config

def parse (text : String) : Except ConfigError Config :=
  match Toml.parse? text with
  | none => .error .malformed
  | some tree => ofTree tree

/-- The configuration in a file, with its paths put after the directory of the file. -/
def load (machine : Machine) (path : Path) : Except ConfigError Config :=
  match machine.readText path with
  | .error error => .error (.read path error)
  | .ok text =>
    match parse text, path.parent with
    | .error error, _ => .error error
    | .ok config, some base => .ok (config.rebase base)
    | .ok config, none => .ok config

/-- The configuration in a directory, or the default one if there is no file. -/
def discover (machine : Machine) (directory : Path) : Except ConfigError Config :=
  let path := directory.join ⟨fileName⟩
  if machine.isFile path then load machine path else .ok {}

end Config

end CodeFormatting
