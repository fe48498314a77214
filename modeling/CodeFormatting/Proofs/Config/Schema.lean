import CodeFormatting.Config.Load
import CodeFormatting.Proofs.Ktfmt.Style
import CodeFormatting.Proofs.Toml.Document
namespace CodeFormatting

/-! Which documents are configurations, and what a configuration takes from its document. The
sections are tables here. They may be arrays as well, of which nothing is said. -/

namespace Toml

def isTable : Toml → Bool
  | .table _ => true
  | _ => false

theorem exists_entries_of_isTable {value : Toml} (htable : value.isTable = true) :
    ∃ entries, value = .table entries := by
  cases value with
  | table entries => exact ⟨entries, rfl⟩
  | _ => cases htable

/-- The entries of a table, and none of any other value. -/
def entries : Toml → List (String × Toml)
  | .table entries => entries
  | _ => []

/-- The entries of the table under a name. -/
def under (tree : Toml) (name : String) : List (String × Toml) :=
  ((tree.entries.lookup name).map entries).getD []

end Toml

namespace Schema

variable {Section Answer : Type} {fields : List (Field Section)} {entries : List (String × Toml)}
  {entry : String × Toml} {given next standard : Section} {name : String} {value : Toml}
  {value? : Option Toml}

/-! Fields. A field accepts the values that fit its name, and what a section holds for the names of
other fields stays as it is. -/

theorem bind_eq_ok_iff {Error Value : Type} {first : Except Error Value}
    {rest : Value → Except Error Answer} {answer : Answer} :
    first.bind rest = .ok answer ↔ ∃ value, first = .ok value ∧ rest value = .ok answer := by
  cases first <;> simp [Except.bind]

/-- A field that sets what is read from a value. -/
def reading (name : String) (read : Toml → Except ShapeError Answer)
    (put : Answer → Section → Section) : Field Section :=
  ⟨name, fun value given => do return put (← read value) given⟩

theorem set_reading_eq_ok_iff {read : Toml → Except ShapeError Answer}
    {put : Answer → Section → Section} :
    (reading name read put).set value given = .ok next ↔
      ∃ answer, read value = .ok answer ∧ put answer given = next := by
  refine bind_eq_ok_iff.trans ?_
  simp [pure, Except.pure]

/-- `Stores name value? given` is what a section holds when its table has the value under the
name, or has none there. -/
structure Field.Lawful (Fits : String → Toml → Prop)
    (Stores : String → Option Toml → Section → Prop) (field : Field Section) : Prop where
  exists_iff : ∀ value given, (∃ next, field.set value given = .ok next) ↔ Fits field.name value
  stores : ∀ value given next, field.set value given = .ok next →
    Stores field.name (some value) next
  keeps : ∀ value given next, field.set value given = .ok next →
    ∀ name value?, name ≠ field.name → Stores name value? given → Stores name value? next

/-- The fields of a section, outside of which no name has a value that fits. -/
structure Lawful (Fits : String → Toml → Prop) (Stores : String → Option Toml → Section → Prop)
    (fields : List (Field Section)) : Prop where
  known : ∀ name value, Fits name value → name ∈ fields.map Field.name
  field : ∀ field ∈ fields, field.Lawful Fits Stores

variable {Fits : String → Toml → Prop} {Stores : String → Option Toml → Section → Prop}

theorem lawful_reading {read : Toml → Except ShapeError Answer}
    {put : Answer → Section → Section}
    (hfits : ∀ value, (∃ answer, read value = .ok answer) ↔ Fits name value)
    (hstores : ∀ value answer given, read value = .ok answer →
      Stores name (some value) (put answer given))
    (hkeeps : ∀ answer given other value?, other ≠ name → Stores other value? given →
      Stores other value? (put answer given)) :
    (reading name read put).Lawful Fits Stores := by
  constructor
  · intro value given
    refine Iff.trans ?_ (hfits value)
    simp only [set_reading_eq_ok_iff]
    constructor
    · rintro ⟨next, answer, hread, -⟩
      exact ⟨answer, hread⟩
    · rintro ⟨answer, hread⟩
      exact ⟨put answer given, answer, hread, rfl⟩
  · intro value given next hset
    obtain ⟨answer, hread, rfl⟩ := set_reading_eq_ok_iff.mp hset
    exact hstores value answer given hread
  · intro value given next hset other value? hother hgiven
    obtain ⟨answer, hread, rfl⟩ := set_reading_eq_ok_iff.mp hset
    exact hkeeps answer given other value? hother hgiven

/-! Tables. -/

theorem setNamed_eq_ok_iff :
    setNamed fields entry given = .ok next ↔
      ∃ field, fields.find? (fun field => field.name == entry.1) = some field ∧
        field.set entry.2 given = .ok next := by
  rw [setNamed]
  cases fields.find? fun field => field.name == entry.1 with
  | none => simp
  | some field => simp

theorem setAll_cons_eq_ok_iff :
    setAll fields (entry :: entries) given = .ok next ↔
      ∃ middle, setNamed fields entry given = .ok middle ∧
        setAll fields entries middle = .ok next := by
  rw [setAll]
  cases setNamed fields entry given with
  | error error => simp
  | ok middle => simp

theorem exists_field_of_setNamed (hset : setNamed fields entry given = .ok next) :
    ∃ field ∈ fields, field.name = entry.1 ∧ field.set entry.2 given = .ok next := by
  obtain ⟨field, hfield, hset⟩ := setNamed_eq_ok_iff.mp hset
  have hname := List.find?_some hfield
  exact ⟨field, List.mem_of_find?_eq_some hfield, beq_iff_eq.mp hname, hset⟩

variable (hlawful : Lawful Fits Stores fields)

include hlawful

theorem exists_setNamed_iff (given : Section) :
    (∃ next, setNamed fields entry given = .ok next) ↔ Fits entry.1 entry.2 := by
  constructor
  · rintro ⟨next, hset⟩
    obtain ⟨field, hfield, hname, hset⟩ := exists_field_of_setNamed hset
    rw [← hname]
    exact ((hlawful.field field hfield).exists_iff _ _).mp ⟨next, hset⟩
  · intro hfits
    obtain ⟨known, hmem, hname⟩ := List.mem_map.mp (hlawful.known _ _ hfits)
    obtain ⟨field, hfield⟩ : ∃ field,
        fields.find? (fun field => field.name == entry.1) = some field := by
      rw [← Option.isSome_iff_exists, List.find?_isSome]
      exact ⟨known, hmem, beq_iff_eq.mpr hname⟩
    have hsame := List.find?_some hfield
    rw [← beq_iff_eq.mp hsame] at hfits
    obtain ⟨next, hset⟩ :=
      ((hlawful.field field (List.mem_of_find?_eq_some hfield)).exists_iff _ given).mpr hfits
    exact ⟨next, setNamed_eq_ok_iff.mpr ⟨field, hfield, hset⟩⟩

theorem exists_setAll_iff (given : Section) :
    (∃ next, setAll fields entries given = .ok next) ↔
      ∀ entry ∈ entries, Fits entry.1 entry.2 := by
  induction entries generalizing given with
  | nil => exact ⟨fun _ => nofun, fun _ => ⟨given, rfl⟩⟩
  | cons entry entries induction =>
      rw [List.forall_mem_cons, ← exists_setNamed_iff hlawful given]
      simp only [setAll_cons_eq_ok_iff]
      constructor
      · rintro ⟨next, middle, hfirst, hrest⟩
        exact ⟨⟨middle, hfirst⟩, (induction middle).mp ⟨next, hrest⟩⟩
      · rintro ⟨⟨middle, hfirst⟩, hrest⟩
        obtain ⟨next, hnext⟩ := (induction middle).mpr hrest
        exact ⟨next, middle, hfirst, hnext⟩

theorem stores_of_setAll_of_absent (habsent : name ∉ entries.map Prod.fst)
    (hset : setAll fields entries given = .ok next) (hgiven : Stores name value? given) :
    Stores name value? next := by
  induction entries generalizing given with
  | nil =>
      cases hset
      exact hgiven
  | cons entry entries induction =>
      rw [List.map_cons, List.mem_cons, not_or] at habsent
      obtain ⟨middle, hfirst, hrest⟩ := setAll_cons_eq_ok_iff.mp hset
      obtain ⟨field, hfield, hname, hfirst⟩ := exists_field_of_setNamed hfirst
      rw [← hname] at habsent
      exact induction habsent.2 hrest
        ((hlawful.field field hfield).keeps _ _ _ hfirst name value? habsent.1 hgiven)

/-- Every value of a table with different keys is stored, since no later one takes its place. -/
theorem stores_of_setAll (hkeys : (entries.map Prod.fst).Nodup)
    (hset : setAll fields entries given = .ok next) (hmem : (name, value) ∈ entries) :
    Stores name (some value) next := by
  induction entries generalizing given with
  | nil => cases hmem
  | cons entry entries induction =>
      rw [List.map_cons, List.nodup_cons] at hkeys
      obtain ⟨middle, hfirst, hrest⟩ := setAll_cons_eq_ok_iff.mp hset
      rcases List.mem_cons.mp hmem with rfl | hmem
      · obtain ⟨field, hfield, rfl, hfirst⟩ := exists_field_of_setNamed hfirst
        exact stores_of_setAll_of_absent hlawful hkeys.1 hrest
          ((hlawful.field field hfield).stores _ _ _ hfirst)
      · exact induction hkeys.2 hrest hmem

omit hlawful

theorem perm_ordered (entries : List (String × Toml)) : (ordered entries).Perm entries :=
  List.mergeSort_perm entries _

include hlawful

theorem exists_sectionValue_iff (title : String) :
    (∃ next, sectionValue title fields standard (.table entries) = .ok next) ↔
      ∀ entry ∈ entries, Fits entry.1 entry.2 := by
  simp only [sectionValue]
  rw [exists_setAll_iff hlawful]
  simp only [(perm_ordered entries).mem_iff]

theorem stores_of_sectionValue {title : String} (hstandard : ∀ name, Stores name none standard)
    (hkeys : (entries.map Prod.fst).Nodup)
    (hsection : sectionValue title fields standard (.table entries) = .ok next) (name : String) :
    Stores name (entries.lookup name) next := by
  have hperm := perm_ordered entries
  have hsame := hperm.map Prod.fst
  rw [sectionValue] at hsection
  cases hvalue : entries.lookup name with
  | none =>
      refine stores_of_setAll_of_absent hlawful ?_ hsection (hstandard name)
      rw [hsame.mem_iff]
      exact Toml.not_mem_of_lookup hvalue
  | some value =>
      exact stores_of_setAll hlawful (hsame.nodup_iff.mpr hkeys) hsection
        (hperm.mem_iff.mpr (Toml.mem_of_lookup hvalue))

omit hlawful

/-! Values. A text stands for itself or for a path. -/

theorem textValue_eq_ok_iff {text : String} :
    textValue value = .ok text ↔ value = .string text := by
  cases value <;> simp [textValue]

theorem pathValue_eq_ok_iff {path : Path} :
    pathValue value = .ok path ↔ value = .string path.text := by
  rcases path with ⟨text⟩
  cases value <;> simp [pathValue]

theorem mapM_pathValue_eq_ok_iff {items : List Toml} {paths : List Path} :
    items.mapM pathValue = .ok paths ↔ items = paths.map fun path => .string path.text := by
  induction items generalizing paths with
  | nil => cases paths <;> simp [pure, Except.pure]
  | cons item items induction =>
      rw [List.mapM_cons]
      refine bind_eq_ok_iff.trans ?_
      constructor
      · rintro ⟨path, hitem, hrest⟩
        obtain ⟨rest, hitems, hpaths⟩ := bind_eq_ok_iff.mp hrest
        cases hpaths
        rw [List.map_cons, ← induction.mp hitems, pathValue_eq_ok_iff.mp hitem]
      · intro hitems
        obtain ⟨path, rest, rfl, hitem, hrest⟩ := List.map_eq_cons_iff.mp hitems.symm
        exact ⟨path, pathValue_eq_ok_iff.mpr hitem.symm,
          bind_eq_ok_iff.mpr ⟨rest, induction.mpr hrest.symm, rfl⟩⟩

theorem pathValues_eq_ok_iff {paths : List Path} :
    pathValues value = .ok paths ↔
      value = .array (paths.map fun path => .string path.text) := by
  cases value with
  | array items => simp [pathValues, mapM_pathValue_eq_ok_iff]
  | _ => simp [pathValues]

theorem exists_textValue_iff :
    (∃ text, textValue value = .ok text) ↔ ∃ text, value = .string text := by
  simp only [textValue_eq_ok_iff]

theorem exists_pathValue_iff :
    (∃ path, pathValue value = .ok path) ↔ ∃ text, value = .string text := by
  simp only [pathValue_eq_ok_iff]
  exact ⟨fun ⟨path, hpath⟩ => ⟨path.text, hpath⟩, fun ⟨text, htext⟩ => ⟨⟨text⟩, htext⟩⟩

theorem exists_pathValues_iff :
    (∃ paths, pathValues value = .ok paths) ↔
      ∃ texts : List String, value = .array (texts.map .string) := by
  simp only [pathValues_eq_ok_iff]
  constructor
  · rintro ⟨paths, rfl⟩
    exact ⟨paths.map Path.text, by rw [List.map_map]; rfl⟩
  · rintro ⟨texts, rfl⟩
    exact ⟨texts.map Path.mk, by rw [List.map_map]; rfl⟩

end Schema

/-! Sections. A value fits a name that is the name of a field, if it is of the shape of that
field. -/

def KtfmtConfig.Fits (name : String) (value : Toml) : Prop :=
  name ∈ ["version", "style", "repository", "java"] ∧ ∃ text, value = .string text

def NpmConfig.Fits (name : String) (value : Toml) : Prop :=
  name ∈ ["executable", "npmrc"] ∧ (∃ text, value = .string text) ∨
    name = "npmrc-locations" ∧ ∃ texts : List String, value = .array (texts.map .string)

structure KtfmtConfig.Stores (name : String) (value? : Option Toml) (config : KtfmtConfig) :
    Prop where
  version : name = "version" → value? = config.version.map .string
  style : name = "style" → value? = config.style.map .string
  repository : name = "repository" →
    value? = config.repository.map fun path => .string path.text
  java : name = "java" → value? = config.java.map fun path => .string path.text

structure NpmConfig.Stores (name : String) (value? : Option Toml) (config : NpmConfig) :
    Prop where
  executable : name = "executable" →
    value? = config.executable.map fun path => .string path.text
  npmrc : name = "npmrc" → value? = config.npmrc.map fun path => .string path.text
  npmrcLocations : name = "npmrc-locations" →
    value?.getD (.array []) = .array (config.npmrcLocations.map fun path => .string path.text)

namespace Schema

theorem lawful_ktfmtFields : Lawful KtfmtConfig.Fits KtfmtConfig.Stores ktfmtFields := by
  have hfields : ktfmtFields =
      [reading "version" textValue fun text config => { config with version := text },
        reading "style" textValue fun text config => { config with style := text },
        reading "repository" pathValue fun path config => { config with repository := path },
        reading "java" pathValue fun path config => { config with java := path }] := rfl
  rw [hfields]
  refine ⟨fun name value hfits => hfits.1, ?_⟩
  simp only [List.forall_mem_cons, List.not_mem_nil, false_imp_iff, implies_true, and_true]
  refine ⟨?_, ?_, ?_, ?_⟩
  · refine lawful_reading (by simp [exists_textValue_iff, KtfmtConfig.Fits]) ?_ ?_
    · intro value text config hread
      constructor <;> simp [textValue_eq_ok_iff.mp hread]
    · intro text config other value? hother hconfig
      exact ⟨fun hname => absurd hname hother, hconfig.style, hconfig.repository, hconfig.java⟩
  · refine lawful_reading (by simp [exists_textValue_iff, KtfmtConfig.Fits]) ?_ ?_
    · intro value text config hread
      constructor <;> simp [textValue_eq_ok_iff.mp hread]
    · intro text config other value? hother hconfig
      exact ⟨hconfig.version, fun hname => absurd hname hother, hconfig.repository, hconfig.java⟩
  · refine lawful_reading (by simp [exists_pathValue_iff, KtfmtConfig.Fits]) ?_ ?_
    · intro value path config hread
      constructor <;> simp [pathValue_eq_ok_iff.mp hread]
    · intro path config other value? hother hconfig
      exact ⟨hconfig.version, hconfig.style, fun hname => absurd hname hother, hconfig.java⟩
  · refine lawful_reading (by simp [exists_pathValue_iff, KtfmtConfig.Fits]) ?_ ?_
    · intro value path config hread
      constructor <;> simp [pathValue_eq_ok_iff.mp hread]
    · intro path config other value? hother hconfig
      exact ⟨hconfig.version, hconfig.style, hconfig.repository, fun hname => absurd hname hother⟩

theorem lawful_npmFields : Lawful NpmConfig.Fits NpmConfig.Stores npmFields := by
  have hfields : npmFields =
      [reading "executable" pathValue fun path config => { config with executable := path },
        reading "npmrc" pathValue fun path config => { config with npmrc := path },
        reading "npmrc-locations" pathValues fun paths config =>
          { config with npmrcLocations := paths }] := rfl
  rw [hfields]
  refine ⟨fun name value hfits => ?_, ?_⟩
  · rcases hfits with ⟨hname, -⟩ | ⟨rfl, -⟩
    · exact List.mem_append_left ["npmrc-locations"] hname
    · exact List.mem_append_right ["executable", "npmrc"] (List.mem_singleton_self _)
  simp only [List.forall_mem_cons, List.not_mem_nil, false_imp_iff, implies_true, and_true]
  refine ⟨?_, ?_, ?_⟩
  · refine lawful_reading (by simp [exists_pathValue_iff, NpmConfig.Fits]) ?_ ?_
    · intro value path config hread
      constructor <;> simp [pathValue_eq_ok_iff.mp hread]
    · intro path config other value? hother hconfig
      exact ⟨fun hname => absurd hname hother, hconfig.npmrc, hconfig.npmrcLocations⟩
  · refine lawful_reading (by simp [exists_pathValue_iff, NpmConfig.Fits]) ?_ ?_
    · intro value path config hread
      constructor <;> simp [pathValue_eq_ok_iff.mp hread]
    · intro path config other value? hother hconfig
      exact ⟨hconfig.executable, fun hname => absurd hname hother, hconfig.npmrcLocations⟩
  · refine lawful_reading (by simp [exists_pathValues_iff, NpmConfig.Fits]) ?_ ?_
    · intro value paths config hread
      constructor <;> simp [pathValues_eq_ok_iff.mp hread]
    · intro paths config other value? hother hconfig
      exact ⟨hconfig.executable, hconfig.npmrc, fun hname => absurd hname hother⟩

/-- What is read from the value under a name, or the standard answer where there is none. -/
inductive Given (read : Toml → Except ShapeError Answer) (standard : Answer) :
    Option Toml → Answer → Prop
  | absent : Given read standard none standard
  | present {value : Toml} {answer : Answer} (hread : read value = .ok answer) :
      Given read standard (some value) answer

theorem Given.stores {title : String} {fields : List (Field Section)} {standard given : Section}
    (hgiven : Given (sectionValue title fields standard) standard value? given)
    (hlawful : Lawful Fits Stores fields) (hstandard : ∀ name, Stores name none standard)
    (htable : ∀ value, value? = some value →
      ∃ entries, value = .table entries ∧ (entries.map Prod.fst).Nodup) (name : String) :
    Stores name (((value?.map Toml.entries).getD []).lookup name) given := by
  cases hgiven with
  | absent => exact hstandard name
  | @present value _ hread =>
      obtain ⟨entries, rfl, hkeys⟩ := htable value rfl
      exact stores_of_sectionValue hlawful hstandard hkeys hread name

def ktfmtValue : Toml → Except ShapeError KtfmtConfig :=
  sectionValue "KtfmtConfig" ktfmtFields {}

def npmValue : Toml → Except ShapeError NpmConfig :=
  sectionValue "NpmConfig" npmFields {}

def IsSection (name : String) (value : Toml) : Prop :=
  name = "ktfmt" ∧ (∃ config, ktfmtValue value = .ok config) ∨
    name = "npm" ∧ ∃ config, npmValue value = .ok config

structure StoresSection (name : String) (value? : Option Toml) (config : Config) : Prop where
  ktfmt : name = "ktfmt" → Given ktfmtValue {} value? config.ktfmt
  npm : name = "npm" → Given npmValue {} value? config.npm

theorem lawful_configFields : Lawful IsSection StoresSection configFields := by
  have hfields : configFields =
      [reading "ktfmt" ktfmtValue fun ktfmt config => { config with ktfmt },
        reading "npm" npmValue fun npm config => { config with npm }] := rfl
  rw [hfields]
  refine ⟨fun name value hfits => ?_, ?_⟩
  · rcases hfits with ⟨rfl, -⟩ | ⟨rfl, -⟩ <;> simp [reading]
  simp only [List.forall_mem_cons, List.not_mem_nil, false_imp_iff, implies_true, and_true]
  refine ⟨?_, ?_⟩
  · refine lawful_reading (by simp [IsSection]) ?_ ?_
    · intro value ktfmt config hread
      exact ⟨fun _ => .present hread, by simp⟩
    · intro ktfmt config other value? hother hconfig
      exact ⟨fun hname => absurd hname hother, hconfig.npm⟩
  · refine lawful_reading (by simp [IsSection]) ?_ ?_
    · intro value npm config hread
      exact ⟨by simp, fun _ => .present hread⟩
    · intro npm config other value? hother hconfig
      exact ⟨hconfig.ktfmt, fun hname => absurd hname hother⟩

end Schema

/-! Documents. -/

namespace Config

variable {tree : Toml} {config : Config} {text : String}

/-- The sections that a document has are tables. -/
def Tabular (tree : Toml) : Prop :=
  ∀ entry ∈ tree.entries, entry.1 = "ktfmt" ∨ entry.1 = "npm" → entry.2.isTable = true

instance (tree : Toml) : Decidable (Tabular tree) :=
  inferInstanceAs (Decidable (∀ entry ∈ tree.entries, _ → _))

/-- A document with no other names than those of the fields, and values of their shapes. -/
def Shaped (tree : Toml) : Prop :=
  ∀ entry ∈ tree.entries,
    entry.1 = "ktfmt" ∧ (∀ inner ∈ entry.2.entries, KtfmtConfig.Fits inner.1 inner.2) ∨
      entry.1 = "npm" ∧ ∀ inner ∈ entry.2.entries, NpmConfig.Fits inner.1 inner.2

/-- The style in a document, if there is one, is the name of a style in letters of either case. -/
def Styled (tree : Toml) : Prop :=
  ∀ text, (tree.under "ktfmt").lookup "style" = some (.string text) →
    ∃ style ∈ Ktfmt.Style.all, Ktfmt.Style.sameLetters style.name (Text.trim text) = true

/-- A configuration has the values of a document and no others. -/
structure Holds (tree : Toml) (config : Config) : Prop where
  version : (tree.under "ktfmt").lookup "version" = config.ktfmt.version.map .string
  style : (tree.under "ktfmt").lookup "style" = config.ktfmt.style.map .string
  repository : (tree.under "ktfmt").lookup "repository" =
    config.ktfmt.repository.map fun path => .string path.text
  java : (tree.under "ktfmt").lookup "java" =
    config.ktfmt.java.map fun path => .string path.text
  executable : (tree.under "npm").lookup "executable" =
    config.npm.executable.map fun path => .string path.text
  npmrc : (tree.under "npm").lookup "npmrc" =
    config.npm.npmrc.map fun path => .string path.text
  npmrcLocations : ((tree.under "npm").lookup "npmrc-locations").getD (.array []) =
    .array (config.npm.npmrcLocations.map fun path => .string path.text)

theorem exists_config_iff (htable : tree = .table tree.entries) (htabular : Tabular tree) :
    (∃ config, Schema.config tree = .ok config) ↔ Shaped tree := by
  rw [htable, Schema.config, Schema.exists_sectionValue_iff Schema.lawful_configFields]
  refine forall₂_congr ?_
  rintro ⟨name, value⟩ hmem
  refine or_congr ?_ ?_
  · refine and_congr_right ?_
    rintro rfl
    obtain ⟨entries, rfl⟩ := Toml.exists_entries_of_isTable (htabular _ hmem (.inl rfl))
    exact Schema.exists_sectionValue_iff Schema.lawful_ktfmtFields _
  · refine and_congr_right ?_
    rintro rfl
    obtain ⟨entries, rfl⟩ := Toml.exists_entries_of_isTable (htabular _ hmem (.inr rfl))
    exact Schema.exists_sectionValue_iff Schema.lawful_npmFields _

theorem stores_config (hdistinct : tree.Distinct) (htable : tree = .table tree.entries)
    (hconfig : Schema.config tree = .ok config) (name : String) :
    Schema.StoresSection name (tree.entries.lookup name) config := by
  rw [htable] at hdistinct hconfig
  have hstandard (name : String) : Schema.StoresSection name none {} :=
    ⟨fun _ => .absent, fun _ => .absent⟩
  exact Schema.stores_of_sectionValue Schema.lawful_configFields hstandard hdistinct.nodup_keys
    hconfig name

theorem exists_entries_of_lookup {name : String} {value : Toml} (hdistinct : tree.Distinct)
    (htable : tree = .table tree.entries) (htabular : Tabular tree)
    (hname : name = "ktfmt" ∨ name = "npm") (hvalue : tree.entries.lookup name = some value) :
    ∃ entries, value = .table entries ∧ (entries.map Prod.fst).Nodup := by
  have hmem := Toml.mem_of_lookup hvalue
  obtain ⟨entries, rfl⟩ := Toml.exists_entries_of_isTable (htabular _ hmem hname)
  rw [htable] at hdistinct
  exact ⟨entries, rfl, (hdistinct.of_mem hmem).nodup_keys⟩

theorem stores_ktfmt (hdistinct : tree.Distinct) (htable : tree = .table tree.entries)
    (htabular : Tabular tree) (hconfig : Schema.config tree = .ok config) (name : String) :
    config.ktfmt.Stores name ((tree.under "ktfmt").lookup name) := by
  have hgiven := (stores_config hdistinct htable hconfig "ktfmt").ktfmt rfl
  refine hgiven.stores Schema.lawful_ktfmtFields ?_ ?_ name
  · intro name
    constructor <;> simp
  · exact fun value hvalue => exists_entries_of_lookup hdistinct htable htabular (by simp) hvalue

theorem stores_npm (hdistinct : tree.Distinct) (htable : tree = .table tree.entries)
    (htabular : Tabular tree) (hconfig : Schema.config tree = .ok config) (name : String) :
    config.npm.Stores name ((tree.under "npm").lookup name) := by
  have hgiven := (stores_config hdistinct htable hconfig "npm").npm rfl
  refine hgiven.stores Schema.lawful_npmFields ?_ ?_ name
  · intro name
    constructor <;> simp
  · exact fun value hvalue => exists_entries_of_lookup hdistinct htable htabular (by simp) hvalue

theorem holds_of_config (hdistinct : tree.Distinct) (htable : tree = .table tree.entries)
    (htabular : Tabular tree) (hconfig : Schema.config tree = .ok config) : Holds tree config := by
  have hktfmt := stores_ktfmt hdistinct htable htabular hconfig
  have hnpm := stores_npm hdistinct htable htabular hconfig
  exact ⟨(hktfmt "version").version rfl, (hktfmt "style").style rfl,
    (hktfmt "repository").repository rfl, (hktfmt "java").java rfl,
    (hnpm "executable").executable rfl, (hnpm "npmrc").npmrc rfl,
    (hnpm "npmrc-locations").npmrcLocations rfl⟩

theorem style_of_effectiveStyle {config : KtfmtConfig} {error : Ktfmt.InvalidStyle}
    (hstyle : config.effectiveStyle = .error error) : config.style = some error.text := by
  rw [KtfmtConfig.effectiveStyle] at hstyle
  split at hstyle
  · next text htext => rw [htext, Ktfmt.Style.text_of_parse hstyle]
  · cases hstyle

theorem exists_effectiveStyle_iff (hholds : Holds tree config) :
    (∃ style, config.ktfmt.effectiveStyle = .ok style) ↔ Styled tree := by
  rw [Styled, hholds.style, KtfmtConfig.effectiveStyle]
  cases config.ktfmt.style with
  | none => simp
  | some text => simp [Ktfmt.Style.parse_eq_ok_iff, Ktfmt.Style.mem_all]

/-- What reading a document comes to. The shape of everything in it is checked before the
style. -/
inductive Parsed (tree : Toml) : Except ConfigError Config → Prop
  | config {config : Config} (hshaped : Shaped tree) (hstyled : Styled tree)
      (hholds : Holds tree config) : Parsed tree (.ok config)
  | malformed (hshaped : ¬ Shaped tree) : Parsed tree (.error .malformed)
  | shape {error : ShapeError} (hshaped : ¬ Shaped tree) : Parsed tree (.error (.shape error))
  | invalidStyle {error : Ktfmt.InvalidStyle} (hshaped : Shaped tree)
      (hstyle : (tree.under "ktfmt").lookup "style" = some (.string error.text))
      (hstyled : ¬ Styled tree) : Parsed tree (.error (.invalidStyle error))

theorem parsed_ofTree (hdistinct : tree.Distinct) (htable : tree = .table tree.entries)
    (htabular : Tabular tree) : Parsed tree (ofTree tree) := by
  have hexists := exists_config_iff htable htabular
  rw [ofTree]
  cases hconfig : Schema.config tree with
  | error error =>
      have hshaped : ¬ Shaped tree := by
        rw [← hexists]
        rintro ⟨config, hother⟩
        rw [hconfig] at hother
        cases hother
      simp only
      split
      · exact .shape hshaped
      · exact .malformed hshaped
  | ok config =>
      have hshaped := hexists.mp ⟨config, hconfig⟩
      have hholds := holds_of_config hdistinct htable htabular hconfig
      have hstyled := exists_effectiveStyle_iff hholds
      simp only
      cases hstyle : config.ktfmt.effectiveStyle with
      | ok style => exact .config hshaped (hstyled.mp ⟨style, hstyle⟩) hholds
      | error error =>
          refine .invalidStyle hshaped ?_ ?_
          · rw [hholds.style, style_of_effectiveStyle hstyle]
            rfl
          · rw [← hstyled]
            rintro ⟨style, hother⟩
            rw [hstyle] at hother
            cases hother

/-- A document, which has no name twice in a table, is a configuration if and only if it is of the
right shape and its style is a known one. The configuration has its values. Any fault of the shape
is reported as such, and only a style that is unknown in a document of the right shape is reported
as it is written. -/
theorem parse_of_document (hparse : Toml.parse? text = some tree) (htabular : Tabular tree) :
    (tree = .table tree.entries ∧ tree.Distinct) ∧
      ((∃ config, parse text = .ok config) ↔ Shaped tree ∧ Styled tree) ∧
      (∀ config, parse text = .ok config → Holds tree config) ∧
      ((parse text = .error .malformed ∨ ∃ error, parse text = .error (.shape error)) ↔
        ¬ Shaped tree) ∧
      (∀ error, parse text = .error (.invalidStyle error) ↔
        Shaped tree ∧ ¬ Styled tree ∧
          (tree.under "ktfmt").lookup "style" = some (.string error.text)) := by
  obtain ⟨entries, rfl, hdistinct⟩ := Toml.exists_entries_of_parse? hparse
  have hparsed := parsed_ofTree hdistinct rfl htabular
  have htext : parse text = ofTree (.table entries) := by rw [parse, hparse]
  refine ⟨⟨rfl, hdistinct⟩, ?_⟩
  rw [htext]
  generalize ofTree (.table entries) = outcome at hparsed ⊢
  cases hparsed with
  | config hshaped hstyled hholds => simp [hshaped, hstyled, hholds]
  | malformed hshaped => simp [hshaped]
  | shape hshaped => simp [hshaped]
  | @invalidStyle error hshaped hstyle hstyled =>
      rcases error with ⟨text⟩
      simp only [hshaped, hstyled, hstyle, and_false, not_true]
      refine ⟨by simp, nofun, by simp, ?_⟩
      rintro ⟨other⟩
      simp

theorem parse_of_document_with_style :
    ∃ tree, Toml.parse? "[ktfmt]\nstyle = ' Google'\n" = some tree ∧ Tabular tree ∧
      Holds tree { ktfmt := { style := some " Google" } } := by
  have htree : ∃ tree ∈ Toml.parse? "[ktfmt]\nstyle = ' Google'\n", Tabular tree := by
    decide +kernel
  obtain ⟨tree, hparse, htabular⟩ := htree
  have hconfig : parse "[ktfmt]\nstyle = ' Google'\n" =
      .ok { ktfmt := { style := some " Google" } } := by
    decide +kernel
  obtain ⟨-, -, hholds, -⟩ := parse_of_document hparse htabular
  exact ⟨tree, hparse, htabular, hholds _ hconfig⟩

end Config

end CodeFormatting
