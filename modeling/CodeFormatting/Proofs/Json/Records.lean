import CodeFormatting.Artifact.Coordinate
import CodeFormatting.Config.Json
import CodeFormatting.Ktfmt.Options
import CodeFormatting.Proofs.Json.Parser
namespace CodeFormatting

/-! The records that have a JSON text are read back from it. What a record leaves open is null or
missing in its text, and reads as open again. -/

/-- The record that a text stands for. -/
def Json.decode? {Record : Type} (ofJson? : Json → Option Record) (text : String) :
    Option Record :=
  (Json.parse? text).bind ofJson?

theorem Json.Exact.decode?_compact {Record : Type} {ofJson? : Json → Option Record}
    {json : Json} (hexact : json.Exact) : decode? ofJson? json.compact = ofJson? json := by
  rw [decode?, hexact.parse?_compact, Option.bind_some]

/-! Coordinates. -/

namespace Coordinate

theorem exact_toJson (coordinate : Coordinate) : coordinate.toJson.Exact := by
  rcases coordinate with ⟨group, artifact, version, _ | classifier⟩
  · exact .cons (.string _) (.cons (.string _) (.cons (.string _) Json.exact_empty))
  · exact .cons (.string _) (.cons (.string _) (.cons (.string _) (.cons (.string _)
      Json.exact_empty)))

theorem ofJson?_toJson (coordinate : Coordinate) :
    ofJson? coordinate.toJson = some coordinate := by
  rcases coordinate with ⟨group, artifact, version, _ | classifier⟩ <;> rfl

/-- The members of an object that names the parts of a coordinate, each once, and has no
classifier or a null one. Further members do not count. -/
structure Unclassified (group artifact version : String) (members : List (String × Json)) :
    Prop where
  distinct : (members.map Prod.fst).Nodup
  group : ("group", .string group) ∈ members
  artifact : ("artifact", .string artifact) ∈ members
  version : ("version", .string version) ∈ members
  classifier : ∀ value, ("classifier", value) ∈ members → value = .null

end Coordinate

/-- In an object with distinct names, the member of a name is the one that has it. -/
theorem Json.member?_eq_some_iff {name : String} {value : Json} {members : List (String × Json)}
    (hdistinct : (members.map Prod.fst).Nodup) :
    member? name members = some value ↔ (name, value) ∈ members := by
  induction members generalizing value with
  | nil => simp [member?]
  | cons member members induction =>
      obtain ⟨key, present⟩ := member
      rw [List.map_cons, List.nodup_cons] at hdistinct
      obtain ⟨hnew, hdistinct⟩ := hdistinct
      rw [member?, List.mem_cons, Prod.mk.injEq]
      by_cases hkey : key = name
      · have hnone : member? name members = none := by
          rw [Option.eq_none_iff_forall_ne_some]
          intro other hother
          exact hnew (List.mem_map.mpr ⟨_, (induction hdistinct).mp hother, hkey.symm⟩)
        have habsent : (name, value) ∉ members := by
          rw [← induction hdistinct, hnone]
          nofun
        simp [hkey, hnone, habsent, eq_comm]
      · have hother : name ≠ key := Ne.symm hkey
        simp [hkey, hother, induction hdistinct]

namespace Coordinate

theorem ofJson?_of_unclassified {group artifact version : String}
    {members : List (String × Json)} (hmembers : Unclassified group artifact version members) :
    ofJson? (.object members) = some ⟨group, artifact, version, none⟩ := by
  have hmember {name : String} {value : Json} (hmem : (name, value) ∈ members) :=
    (Json.member?_eq_some_iff hmembers.distinct).mpr hmem
  have hclassifier : (Json.member? "classifier" members).getD .null = .null := by
    cases hread : Json.member? "classifier" members with
    | none => rfl
    | some value =>
        exact hmembers.classifier value ((Json.member?_eq_some_iff hmembers.distinct).mp hread)
  simp only [ofJson?, hmember hmembers.group, hmember hmembers.artifact,
    hmember hmembers.version, hclassifier]
  rfl

theorem classifier_mem_iff {coordinate : Coordinate} {members : List (String × Json)}
    (hmembers : coordinate.toJson = .object members) :
    "classifier" ∈ members.map Prod.fst ↔ coordinate.classifier.isSome := by
  rcases coordinate with ⟨group, artifact, version, _ | classifier⟩ <;> cases hmembers <;> simp

end Coordinate

/-! Options. -/

namespace Ktfmt

theorem CodeStyle.ofName?_name (style : CodeStyle) :
    CodeStyle.ofName? style.name = some style := by
  cases style <;> rfl

namespace Options

theorem fitsWord_toNat (word : UInt32) : Json.FitsWord word.toNat := by
  have hsmall := word.toNat_lt
  constructor <;> omega

theorem wordOfJson?_wordToJson (word : UInt32) : wordOfJson? (wordToJson word) = some word := by
  have hsmall := word.toNat_lt_size
  rw [wordToJson, wordOfJson?, if_pos (by omega), Int.toNat_natCast, UInt32.ofNat_toNat]

theorem exact_toJson (options : Options) : options.toJson.Exact :=
  have hword (word : UInt32) : (wordToJson word).Exact := .integer (fitsWord_toNat word)
  .cons (.string _) (.cons (hword _) (.cons (hword _) (.cons (hword _) (.cons (.boolean _)
    Json.exact_empty))))

theorem ofJson?_toJson (options : Options) : ofJson? options.toJson = some options := by
  have hvalues : ofJson? options.toJson =
      ofValues? (.string options.style.name) (wordToJson options.maxWidth)
        (wordToJson options.blockIndent) (wordToJson options.continuationIndent)
        (.boolean options.removeUnusedImports) := rfl
  rw [hvalues]
  simp only [ofValues?, CodeStyle.ofJson?, CodeStyle.ofName?_name, wordOfJson?_wordToJson]
  rfl

end Options

end Ktfmt

/-! Configurations. -/

namespace Config

theorem textOfJson?_textToJson (text? : Option String) :
    textOfJson? (textToJson text?) = some text? := by
  cases text? <;> rfl

theorem pathOfJson?_pathToJson (path? : Option Path) :
    pathOfJson? (pathToJson path?) = some path? := by
  cases path? <;> rfl

theorem pathsOfJson?_pathsToJson (paths : List Path) :
    pathsOfJson? (pathsToJson paths) = some paths := by
  rw [pathsToJson, pathsOfJson?]
  induction paths with
  | nil => rfl
  | cons path paths induction =>
      rw [List.map_cons, List.mapM_cons, induction]
      rfl

theorem exact_textToJson (text? : Option String) : (textToJson text?).Exact := by
  cases text? with
  | none => exact .null
  | some text => exact .string text

theorem exact_pathToJson (path? : Option Path) : (pathToJson path?).Exact := by
  cases path? with
  | none => exact .null
  | some path => exact .string path.text

theorem exact_pathsToJson (paths : List Path) : (pathsToJson paths).Exact := by
  refine .array fun item hitem => ?_
  obtain ⟨path, -, rfl⟩ := List.mem_map.mp hitem
  exact .string path.text

theorem exact_toJson (config : Config) : config.toJson.Exact := by
  have hktfmt : (ktfmtToJson config.ktfmt).Exact :=
    .cons (exact_textToJson _) (.cons (exact_textToJson _) (.cons (exact_pathToJson _)
      (.cons (exact_pathToJson _) Json.exact_empty)))
  have hnpm : (npmToJson config.npm).Exact :=
    .cons (exact_pathToJson _) (.cons (exact_pathToJson _) (.cons (exact_pathsToJson _)
      Json.exact_empty))
  exact .cons hktfmt (.cons hnpm Json.exact_empty)

theorem ktfmtOfJson?_ktfmtToJson (config : KtfmtConfig) :
    ktfmtOfJson? (ktfmtToJson config) = some config := by
  have hvalues : values? ["version", "style", "repository", "java"] (ktfmtToJson config) =
      some [some (textToJson config.version), some (textToJson config.style),
        some (pathToJson config.repository), some (pathToJson config.java)] := rfl
  rw [ktfmtOfJson?, hvalues]
  simp only [Option.bind_eq_bind, Option.bind_some, valueOr, textOfJson?_textToJson,
    pathOfJson?_pathToJson]
  rfl

theorem npmOfJson?_npmToJson (config : NpmConfig) :
    npmOfJson? (npmToJson config) = some config := by
  have hvalues : values? ["executable", "npmrc", "npmrc-locations"] (npmToJson config) =
      some [some (pathToJson config.executable), some (pathToJson config.npmrc),
        some (pathsToJson config.npmrcLocations)] := rfl
  rw [npmOfJson?, hvalues]
  simp only [Option.bind_eq_bind, Option.bind_some, valueOr, pathOfJson?_pathToJson,
    pathsOfJson?_pathsToJson]
  rfl

theorem ofJson?_toJson (config : Config) : ofJson? config.toJson = some config := by
  have hvalues : values? ["ktfmt", "npm"] config.toJson =
      some [some (ktfmtToJson config.ktfmt), some (npmToJson config.npm)] := rfl
  rw [ofJson?, hvalues]
  simp only [Option.bind_eq_bind, Option.bind_some, valueOr, ktfmtOfJson?_ktfmtToJson,
    npmOfJson?_npmToJson]
  rfl

end Config

/-- Configurations, coordinates and options are what their texts are read as. A coordinate without
a classifier has no key for it, and neither a missing nor a null one stands for a classifier. -/
theorem records_decoded :
    (∀ config : Config, Json.decode? Config.ofJson? config.toJson.compact = some config) ∧
    (∀ coordinate : Coordinate,
      Json.decode? Coordinate.ofJson? coordinate.toJson.compact = some coordinate ∧
      ∃ members, Json.parse? coordinate.toJson.compact = some (.object members) ∧
        ("classifier" ∈ members.map Prod.fst ↔ coordinate.classifier.isSome)) ∧
    (∀ (text group artifact version : String) (members : List (String × Json)),
      Json.parse? text = some (.object members) →
      Coordinate.Unclassified group artifact version members →
      Json.decode? Coordinate.ofJson? text = some ⟨group, artifact, version, none⟩) ∧
    ∀ options : Ktfmt.Options,
      Json.decode? Ktfmt.Options.ofJson? options.toJson.compact = some options := by
  refine ⟨fun config => ?_, fun coordinate => ⟨?_, ?_⟩, ?_, fun options => ?_⟩
  · rw [config.exact_toJson.decode?_compact, config.ofJson?_toJson]
  · rw [coordinate.exact_toJson.decode?_compact, coordinate.ofJson?_toJson]
  · exact ⟨_, coordinate.exact_toJson.parse?_compact, Coordinate.classifier_mem_iff rfl⟩
  · intro text group artifact version members hparse hmembers
    rw [Json.decode?, hparse, Option.bind_some, Coordinate.ofJson?_of_unclassified hmembers]
  · rw [options.exact_toJson.decode?_compact, options.ofJson?_toJson]

namespace Coordinate

/-- A coordinate with a null classifier between its parts, and with a packaging. -/
def packaged : List (String × Json) :=
  [("version", .string "1"), ("classifier", .null), ("group", .string "g"),
    ("packaging", .string "jar"), ("artifact", .string "a")]

end Coordinate

theorem records_decoded_of_packaged :
    Json.decode? Coordinate.ofJson? (Json.object Coordinate.packaged).compact =
      some ⟨"g", "a", "1", none⟩ := by
  have hexact : Json.Exact (.object Coordinate.packaged) :=
    .cons (.string _) (.cons .null (.cons (.string _) (.cons (.string _) (.cons (.string _)
      Json.exact_empty))))
  have hmembers : Coordinate.Unclassified "g" "a" "1" Coordinate.packaged := by
    refine ⟨by decide, by simp [Coordinate.packaged], by simp [Coordinate.packaged],
      by simp [Coordinate.packaged], ?_⟩
    intro value hvalue
    simpa [Coordinate.packaged] using hvalue
  exact records_decoded.2.2.1 _ _ _ _ _ hexact.parse?_compact hmembers

end CodeFormatting
