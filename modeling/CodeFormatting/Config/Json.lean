import CodeFormatting.Config.Basic
import CodeFormatting.Json.Printer
namespace CodeFormatting

/-! A configuration as a JSON value. Written, it has every key, with null for what is
absent. Read, a key may be missing but not unknown, and a section may be an array of its
first values. -/

namespace Config

def textToJson : Option String → Json
  | some text => .string text
  | none => .null

def pathToJson : Option Path → Json
  | some path => .string path.text
  | none => .null

def pathsToJson (paths : List Path) : Json :=
  .array (paths.map fun path => .string path.text)

def ktfmtToJson (config : KtfmtConfig) : Json :=
  .object [("version", textToJson config.version), ("style", textToJson config.style),
    ("repository", pathToJson config.repository), ("java", pathToJson config.java)]

def npmToJson (config : NpmConfig) : Json :=
  .object [("executable", pathToJson config.executable), ("npmrc", pathToJson config.npmrc),
    ("npmrc-locations", pathsToJson config.npmrcLocations)]

def toJson (config : Config) : Json :=
  .object [("ktfmt", ktfmtToJson config.ktfmt), ("npm", npmToJson config.npm)]

def textOfJson? : Json → Option (Option String)
  | .null => some none
  | .string text => some (some text)
  | _ => none

def pathOfJson? : Json → Option (Option Path)
  | .null => some none
  | .string text => some (some ⟨text⟩)
  | _ => none

def locationOfJson? : Json → Option Path
  | .string text => some ⟨text⟩
  | _ => none

def pathsOfJson? : Json → Option (List Path)
  | .array items => items.mapM locationOfJson?
  | _ => none

/-- The values of some keys in their order, of which any may be missing. -/
def values? (keys : List String) : Json → Option (List (Option Json))
  | .object members =>
    if members.all fun (name, _) => keys.contains name then
      some (keys.map fun key => Json.member? key members)
    else none
  | .array items =>
    if items.length ≤ keys.length then
      some (items.map some ++ List.replicate (keys.length - items.length) none)
    else none
  | _ => none

/-- The value of a key, or the standard one if there is none. -/
def valueOr {Answer : Type} (standard : Answer) (read? : Json → Option Answer) :
    Option Json → Option Answer
  | none => some standard
  | some value => read? value

def ktfmtOfJson? (json : Json) : Option KtfmtConfig := do
  match ← values? ["version", "style", "repository", "java"] json with
  | [version, style, repository, java] =>
    return { version := ← valueOr none textOfJson? version
             style := ← valueOr none textOfJson? style
             repository := ← valueOr none pathOfJson? repository
             java := ← valueOr none pathOfJson? java }
  | _ => none

def npmOfJson? (json : Json) : Option NpmConfig := do
  match ← values? ["executable", "npmrc", "npmrc-locations"] json with
  | [executable, npmrc, locations] =>
    return { executable := ← valueOr none pathOfJson? executable
             npmrc := ← valueOr none pathOfJson? npmrc
             npmrcLocations := ← valueOr [] pathsOfJson? locations }
  | _ => none

def ofJson? (json : Json) : Option Config := do
  match ← values? ["ktfmt", "npm"] json with
  | [ktfmt, npm] =>
    return { ktfmt := ← valueOr {} ktfmtOfJson? ktfmt
             npm := ← valueOr {} npmOfJson? npm }
  | _ => none

end Config

end CodeFormatting
