import CodeFormatting.Config.Basic
import CodeFormatting.Decimal.Shortest
import CodeFormatting.Text.Quoted
import CodeFormatting.Toml.Basic
namespace CodeFormatting

/-! Which trees are configurations. The keys of a table are visited in the order of their
characters, and the first that is unknown or has a value of another shape is reported. A section
may also be an array of its values in the order of the keys, of which the last may be left out. -/

inductive ShapeError
  | unknownField (name : String) (known : List String)
  | wrongType (found wanted : String)
  deriving DecidableEq, Repr

namespace ShapeError

def quotedNames (names : List String) : List String :=
  names.map fun name => "`" ++ name ++ "`"

def expectation (names : List String) : String :=
  match quotedNames names with
  | [first, second] => first ++ " or " ++ second
  | names => "one of " ++ ", ".intercalate names

def message : ShapeError → String
  | .unknownField name known =>
    "unknown field `" ++ name ++ "`, expected " ++ expectation known
  | .wrongType found wanted => "invalid type: " ++ found ++ ", expected " ++ wanted

end ShapeError

namespace Schema

def described : Toml → String
  | .string text => "string " ++ Text.quoted text
  | .integer value => "integer `" ++ toString value ++ "`"
  | .fraction value => "floating point `" ++ value.plainText ++ "`"
  | .boolean value => "boolean `" ++ toString value ++ "`"
  | .unrepresentable => "number"
  | .moment => "map"
  | .array _ => "sequence"
  | .table _ => "map"

def textValue : Toml → Except ShapeError String
  | .string text => .ok text
  | other => .error (.wrongType (described other) "a string")

def pathValue : Toml → Except ShapeError Path
  | .string text => .ok ⟨text⟩
  | other => .error (.wrongType (described other) "path string")

def pathValues : Toml → Except ShapeError (List Path)
  | .array items => items.mapM pathValue
  | other => .error (.wrongType (described other) "a sequence")

/-- A key of a section with what its value changes. -/
structure Field (Section : Type) where
  name : String
  set : Toml → Section → Except ShapeError Section

variable {Section : Type}

def setNamed (fields : List (Field Section)) (entry : String × Toml) (value : Section) :
    Except ShapeError Section :=
  match fields.find? fun field => field.name == entry.1 with
  | some field => field.set entry.2 value
  | none => .error (.unknownField entry.1 (fields.map Field.name))

def setAll (fields : List (Field Section)) :
    List (String × Toml) → Section → Except ShapeError Section
  | [], value => .ok value
  | entry :: rest, value =>
    match setNamed fields entry value with
    | .ok value => setAll fields rest value
    | .error error => .error error

/-- Values for the first fields, one after the other; more values do not count. -/
def setInOrder : List (Field Section) → List Toml → Section → Except ShapeError Section
  | field :: fields, item :: items, value =>
    match field.set item value with
    | .ok value => setInOrder fields items value
    | .error error => .error error
  | _, _, value => .ok value

def ordered (entries : List (String × Toml)) : List (String × Toml) :=
  entries.mergeSort fun left right => left.1 ≤ right.1

/-- The key under which a date or a time hides what it says. -/
def momentKey : String :=
  "$__toml_private_datetime"

/-- A section with some fields, which has a name in messages. -/
def sectionValue (name : String) (fields : List (Field Section)) (standard : Section) :
    Toml → Except ShapeError Section
  | .table entries => setAll fields (ordered entries) standard
  | .array items => setInOrder fields items standard
  | .moment => .error (.unknownField momentKey (fields.map Field.name))
  | other => .error (.wrongType (described other) ("struct " ++ name))

def ktfmtFields : List (Field KtfmtConfig) :=
  [⟨"version", fun value config => do return { config with version := ← textValue value }⟩,
    ⟨"style", fun value config => do return { config with style := ← textValue value }⟩,
    ⟨"repository", fun value config => do
      return { config with repository := ← pathValue value }⟩,
    ⟨"java", fun value config => do return { config with java := ← pathValue value }⟩]

def npmFields : List (Field NpmConfig) :=
  [⟨"executable", fun value config => do
      return { config with executable := ← pathValue value }⟩,
    ⟨"npmrc", fun value config => do return { config with npmrc := ← pathValue value }⟩,
    ⟨"npmrc-locations", fun value config => do
      return { config with npmrcLocations := ← pathValues value }⟩]

def configFields : List (Field Config) :=
  [⟨"ktfmt", fun value config => do
      return { config with ktfmt := ← sectionValue "KtfmtConfig" ktfmtFields {} value }⟩,
    ⟨"npm", fun value config => do
      return { config with npm := ← sectionValue "NpmConfig" npmFields {} value }⟩]

def config (tree : Toml) : Except ShapeError Config :=
  sectionValue "Config" configFields {} tree

end Schema

end CodeFormatting
