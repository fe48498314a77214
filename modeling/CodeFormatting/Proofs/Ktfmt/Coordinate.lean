import CodeFormatting.Proofs.Artifact.Coordinate
import CodeFormatting.Proofs.Ktfmt.Identity
import CodeFormatting.Proofs.Ktfmt.Settings
namespace CodeFormatting.Ktfmt

/-! The text of a version is read together with the group and the artifact in front of it, so
that a colon in it begins a classifier. -/

variable {World : Type}

/-- What is read as the version and as a classifier where a text stands for a version. -/
inductive VersionText (text : String) : String → Option String → Prop
  | whole (hundivided : ':' ∉ (Text.trim text).toList) (hvisible : Text.trim text ≠ "") :
      VersionText text (Text.trim text) none
  | divided {front back : String} (htext : Text.trim text = front ++ ":" ++ back)
      (hfront : ':' ∉ front.toList) (hback : ':' ∉ back.toList)
      (hnumber : Text.trim front ≠ "") (hextra : Text.trim back ≠ "") :
      VersionText text (Text.trim front) (some (Text.trim back))

theorem versionText_iff {text number : String} {extra : Option String} :
    VersionText text number extra ↔
      (Text.pieces ':' (Text.trim text)).map Text.trim = number :: extra.toList ∧
        ∀ part ∈ number :: extra.toList, part ≠ "" := by
  constructor
  · rintro (⟨hundivided, hvisible⟩ | ⟨htext, hfront, hback, hnumber, hextra⟩)
    · rw [Text.pieces_of_not_mem hundivided]
      simpa [Text.trim_trim] using hvisible
    · rw [Text.pieces_eq_pair_iff.mpr ⟨htext, hfront, hback⟩]
      simpa using ⟨hnumber, hextra⟩
  · rintro ⟨hparts, hvisible⟩
    cases extra with
    | none =>
        obtain ⟨piece, hpieces, rfl⟩ := List.map_eq_singleton_iff.mp hparts
        obtain ⟨rfl, hundivided⟩ := Text.pieces_eq_singleton_iff.mp hpieces
        rw [Text.trim_trim] at hvisible ⊢
        exact .whole hundivided (hvisible _ List.mem_cons_self)
    | some extra =>
        obtain ⟨front, rest, hpieces, rfl, hrest⟩ := List.map_eq_cons_iff.mp hparts
        obtain ⟨back, rfl, rfl⟩ := List.map_eq_singleton_iff.mp hrest
        obtain ⟨htext, hfront, hback⟩ := Text.pieces_eq_pair_iff.mp hpieces
        exact .divided htext hfront hback (hvisible _ (by simp)) (hvisible _ (by simp))

theorem VersionText.eq_of_divided {text number front back : String} {extra : Option String}
    (hread : VersionText text number extra) (htext : Text.trim text = front ++ ":" ++ back) :
    number = Text.trim front ∧ extra = some (Text.trim back) := by
  cases hread with
  | whole hundivided => simp [htext] at hundivided
  | divided hother hfront hback =>
      have hpieces := Text.pieces_eq_pair_iff.mpr ⟨hother, hfront, hback⟩
      rw [htext] at hpieces
      obtain ⟨rfl, rfl⟩ := Text.eq_of_append_of_pieces hpieces
      exact ⟨rfl, rfl⟩

theorem VersionText.number_eq_iff {text number : String} {extra : Option String}
    (hread : VersionText text number extra) :
    number = Text.trim text ↔ ':' ∉ (Text.trim text).toList := by
  cases hread with
  | whole hundivided => exact iff_of_true rfl hundivided
  | divided htext hfront =>
      refine iff_of_false (fun hsame => hfront ?_) (by simp [htext])
      refine Text.mem_of_mem_trim ?_
      rw [hsame, htext]
      simp

theorem VersionText.extra_eq_none_iff {text number : String} {extra : Option String}
    (hread : VersionText text number extra) :
    extra = none ↔ ':' ∉ (Text.trim text).toList := by
  cases hread with
  | whole hundivided => exact iff_of_true rfl hundivided
  | divided htext => simp [htext]

theorem pieces_mavenCoordinate (text : String) :
    Text.pieces ':' (mavenCoordinate ++ text) =
      mavenGroup :: stepName :: Text.pieces ':' text := by
  have hfront : mavenCoordinate ++ text =
      mavenGroup ++ String.ofList [':'] ++ (stepName ++ String.ofList [':'] ++ text) := by
    rw [← String.append_assoc, ← String.append_assoc]
    rfl
  rw [hfront, Text.pieces_append, Text.pieces_append]
  rfl

theorem parse?_mavenCoordinate_iff {version : String} {coordinate : Coordinate} :
    Coordinate.parse? (mavenCoordinate ++ Text.trim version) = some coordinate ↔
      coordinate.group = mavenGroup ∧ coordinate.artifact = stepName ∧
        VersionText version coordinate.version coordinate.classifier := by
  rcases coordinate with ⟨group, artifact, number, extra⟩
  have hgroup : Text.trim mavenGroup = mavenGroup := by decide
  have hartifact : Text.trim stepName = stepName := by decide
  rw [Coordinate.parse?_eq_some_iff, pieces_mavenCoordinate, versionText_iff]
  simp only [Coordinate.parts, List.map_cons, List.cons_append, List.nil_append,
    List.cons.injEq, hgroup, hartifact]
  constructor
  · rintro ⟨⟨rfl, rfl, hparts⟩, hvisible⟩
    exact ⟨rfl, rfl, hparts, fun part hpart => hvisible part (by simp_all)⟩
  · rintro ⟨rfl, rfl, hparts, hvisible⟩
    refine ⟨⟨rfl, rfl, hparts⟩, ?_⟩
    rw [List.forall_mem_cons, List.forall_mem_cons]
    exact ⟨by decide, by decide, hvisible⟩

theorem VersionText.parse?_eq {version number : String} {extra : Option String}
    (hread : VersionText version number extra) :
    Coordinate.parse? (mavenCoordinate ++ Text.trim version) =
      some ⟨mavenGroup, stepName, number, extra⟩ :=
  parse?_mavenCoordinate_iff.mpr ⟨rfl, rfl, hread⟩

namespace Builder

theorem coordinate_eq_ok_iff {version : String} {classifier : Option String}
    {coordinate : Coordinate} :
    Builder.coordinate version classifier = .ok coordinate ↔
      ∃ number extra, VersionText version number extra ∧
        coordinate = ⟨mavenGroup, stepName, number, (classifier.map Text.trim).or extra⟩ := by
  unfold Builder.coordinate
  constructor
  · intro hcoordinate
    cases hparse : Coordinate.parse? (mavenCoordinate ++ Text.trim version) with
    | none => simp [Coordinate.parse, hparse] at hcoordinate
    | some read =>
        obtain ⟨hgroup, hartifact, hread⟩ := parse?_mavenCoordinate_iff.mp hparse
        refine ⟨read.version, read.classifier, hread, ?_⟩
        rcases read with ⟨group, artifact, number, extra⟩
        obtain rfl : group = mavenGroup := hgroup
        obtain rfl : artifact = stepName := hartifact
        cases classifier <;> simpa [Coordinate.parse, hparse, eq_comm] using hcoordinate
  · rintro ⟨number, extra, hread, rfl⟩
    cases classifier <;> simp [Coordinate.parse, hread.parse?_eq]

theorem coordinate_eq_error_iff {version : String} {classifier : Option String}
    {error : StepError} :
    Builder.coordinate version classifier = .error error ↔
      (∀ number extra, ¬ VersionText version number extra) ∧
        error = .provision (.invalidCoordinate (mavenCoordinate ++ Text.trim version)) := by
  unfold Builder.coordinate
  cases hparse : Coordinate.parse? (mavenCoordinate ++ Text.trim version) with
  | none =>
      have hnone : ∀ number extra, ¬ VersionText version number extra := by
        intro number extra hread
        cases hparse.symm.trans hread.parse?_eq
      simp [Coordinate.parse, hparse, hnone, eq_comm]
  | some read =>
      have hread := (parse?_mavenCoordinate_iff.mp hparse).2.2
      refine ⟨fun herror => ?_, fun hnone => absurd hread (hnone.1 _ _)⟩
      cases classifier <;> simp [Coordinate.parse, hparse] at herror

end Builder

/-! A step asks its provisioner for one coordinate, when it is initialized. -/

def Request.coordinate? : Request World → Option Coordinate
  | .provision coordinate _ => some coordinate
  | _ => none

theorem Lookup.filterMap_coordinate? {api : Api World} {style : Style}
    {lookups : List (Request World)} {answer : Except LookupError (Option Options)}
    (hlookup : Lookup api style lookups answer) : lookups.filterMap Request.coordinate? = [] := by
  cases hlookup <;> rfl

theorem Opening.filterMap_coordinate? {coordinate : Coordinate} {style : Style}
    {opening : List (Request World)} {outcome : Except StepError (Loaded World)}
    (hopening : Opening coordinate style opening outcome) :
    opening.filterMap Request.coordinate? = [coordinate] := by
  cases hopening with
  | notProvided => rfl
  | notLoaded => rfl
  | notFound hlookup => exact congrArg (coordinate :: ·) hlookup.filterMap_coordinate?
  | loaded hlookup => exact congrArg (coordinate :: ·) hlookup.filterMap_coordinate?

theorem Served.filterMap_coordinate? {outcome : Except StepError (Loaded World)}
    {call : Step.Call} {own : List (Request World)} {answer : Step.Answer}
    (hserved : Served outcome call own answer) : own.filterMap Request.coordinate? = [] := by
  cases hserved <;> rfl

/-- The coordinates that a run of calls on a step asks for. -/
def provisioned (step : Step (Asked World)) (calls : List Step.Call) (world : World) :
    List Coordinate :=
  (step.visits calls world).flatMap fun visit => visit.notes.filterMap Request.coordinate?

/-- The step of a builder asks for one coordinate alone, whatever is called on it. -/
def Builder.Provisions (builder : Builder World) (standard : Loader World)
    (coordinate : Coordinate) : Prop :=
  ∃ observed, builder.observed.build (Loader.observed standard) = .ok observed ∧
    ∀ calls world, provisioned observed calls world =
      if calls.any Step.Call.initializes then [coordinate] else []

theorem provisioned_step (configuration : Configuration World) (calls : List Step.Call)
    (world : World) :
    provisioned configuration.observed.step calls world =
      if calls.any Step.Call.initializes then [configuration.coordinate] else [] := by
  obtain ⟨opening, outcome, after, hmade, hopening⟩ := exists_opening configuration world
  have hcollected : Observed.collected configuration.observed.makeEngine world =
      ((outcome.map Loaded.engine, opening), after) := by
    rw [Observed.collected, hmade]
  have hlength : (configuration.observed.step.visits calls world).length = calls.length := by
    rw [← List.length_map Visit.call]
    exact congrArg List.length (Visit.calls_history _ _ calls world)
  have hnotes : ∀ index visit, (configuration.observed.step.visits calls world)[index]? =
      some visit → visit.notes.filterMap Request.coordinate? =
        if index = calls.findIdx Step.Call.initializes then [configuration.coordinate] else [] := by
    intro index visit hvisit
    obtain ⟨-, -, now, own, hreply, hnotes⟩ :=
      Step.follows_of_getElem? rfl hcollected (Outcome.adds outcome) hvisit
    rw [hnotes, List.filterMap_append, (served_of_reply hreply).filterMap_coordinate?,
      List.append_nil]
    split
    · exact hopening.filterMap_coordinate?
    · rfl
  rw [provisioned, Step.flatMap_eq_of_getElem? hnotes]
  simp only [hlength, List.findIdx_lt_length, List.any_eq_true]

theorem provisions_of_configuration {builder : Builder World} {standard : Loader World}
    {configuration : Configuration World}
    (hconfigured : builder.configuration standard = .ok configuration) :
    builder.Provisions standard configuration.coordinate :=
  ⟨_, build_of_configuration (configuration_observed hconfigured),
    provisioned_step configuration⟩

/-! What a step asks for against what the settings of its builder say. -/

theorem visibleVersion?_eq_some_iff {settings : List (Setting World)} {version : String} :
    (Builder.ofSettings settings).visibleVersion? = some version ↔
      Setting.last? Setting.version? settings = some version ∧
        Text.isBlankText version = false := by
  rw [Builder.visibleVersion?, Builder.version?_ofSettings, Option.filter_eq_some_iff,
    Bool.not_eq_true']

theorem configuration_ofSettings {settings : List (Setting World)} {standard : Loader World}
    {configuration : Configuration World}
    (hconfigured : (Builder.ofSettings settings).configuration standard = .ok configuration) :
    ∃ version number extra, Setting.last? Setting.version? settings = some version ∧
      VersionText version number extra ∧ configuration.coordinate =
        ⟨mavenGroup, stepName, number, (Setting.asked settings).or extra⟩ := by
  obtain ⟨version, hversion, -, -, hcoordinate, -⟩ :=
    Builder.configuration_eq_ok_iff.mp hconfigured
  obtain ⟨number, extra, hread, hsame⟩ := Builder.coordinate_eq_ok_iff.mp hcoordinate
  rw [Builder.map_classifier?_ofSettings] at hsame
  exact ⟨version, number, extra, (visibleVersion?_eq_some_iff.mp hversion).1, hread, hsame⟩

structure Requested (settings : List (Setting World)) (version : String)
    (coordinate : Coordinate) : Prop where
  group : coordinate.group = "com.facebook"
  artifact : coordinate.artifact = "ktfmt"
  faithful : (coordinate.version = Text.trim version ∧
    coordinate.classifier = Setting.asked settings) ↔ ':' ∉ (Text.trim version).toList
  plain : Setting.asked settings = none →
    (coordinate.classifier = none ↔ ':' ∉ (Text.trim version).toList)
  divided : ∀ front back, Text.trim version = front ++ ":" ++ back →
    coordinate.version = Text.trim front ∧
      coordinate.classifier = (Setting.asked settings).or (some (Text.trim back))

theorem requested_of_versionText (settings : List (Setting World)) {version number : String}
    {extra : Option String} (hread : VersionText version number extra) :
    Requested settings version
      ⟨mavenGroup, stepName, number, (Setting.asked settings).or extra⟩ where
  group := rfl
  artifact := rfl
  faithful := by
    refine ⟨fun hsame => hread.number_eq_iff.mp hsame.1, fun hundivided => ?_⟩
    refine ⟨hread.number_eq_iff.mpr hundivided, ?_⟩
    rw [hread.extra_eq_none_iff.mpr hundivided, Option.or_none]
  plain hnone := by
    rw [hnone, Option.none_or]
    exact hread.extra_eq_none_iff
  divided front back htext := by
    obtain ⟨rfl, rfl⟩ := hread.eq_of_divided htext
    exact ⟨rfl, rfl⟩

/-- A step asks for what its builder was told to, unless a colon in the version begins a
classifier. Without colons, steps of different versions are different. -/
theorem requested_of_settings {settings : List (Setting World)} {standard : Loader World}
    {step : Step World} (hbuilt : (Builder.ofSettings settings).build standard = .ok step) :
    ∃ version configuration, Setting.last? Setting.version? settings = some version ∧
      (Builder.ofSettings settings).configuration standard = .ok configuration ∧
      (Builder.ofSettings settings).Provisions standard configuration.coordinate ∧
      Requested settings version configuration.coordinate ∧
      ∀ (others : List (Setting World)) (fallback : Loader World) (twin : Step World)
        (other : String), (Builder.ofSettings others).build fallback = .ok twin →
        Setting.last? Setting.version? others = some other →
        ':' ∉ (Text.trim version).toList → ':' ∉ (Text.trim other).toList →
        Text.trim version ≠ Text.trim other → step.identity ≠ twin.identity := by
  obtain ⟨configuration, hconfigured, rfl⟩ := configuration_of_build hbuilt
  obtain ⟨version, number, extra, hversion, hread, hcoordinate⟩ :=
    configuration_ofSettings hconfigured
  have hrequested := requested_of_versionText settings hread
  rw [← hcoordinate] at hrequested
  refine ⟨version, configuration, hversion, hconfigured,
    provisions_of_configuration hconfigured, hrequested, ?_⟩
  intro others fallback twin other hother hotherVersion hundivided hotherUndivided hdiffer hsame
  obtain ⟨second, hsecond, rfl⟩ := configuration_of_build hother
  obtain ⟨read, otherNumber, otherExtra, hlast, hotherRead, hotherCoordinate⟩ :=
    configuration_ofSettings hsecond
  obtain rfl : other = read := Option.some.inj (hotherVersion.symm.trans hlast)
  have hagrees := Configuration.identity_step_eq_iff.mp hsame
  refine hdiffer ?_
  calc Text.trim version
    _ = configuration.coordinate.version := (hrequested.faithful.mpr hundivided).1.symm
    _ = second.coordinate.version := hagrees.version
    _ = otherNumber := by rw [hotherCoordinate]
    _ = Text.trim other := hotherRead.number_eq_iff.mpr hotherUndivided

namespace Divided

def loader : Loader Unit := fun _ => pure (.error (.rejected ""))

/-- Everything a builder needs, with the texts of a version and of a classifier. -/
def settings (version : String) (classifier : Option String) : List (Setting Unit) :=
  [.version version, .provisioner fun coordinate => pure (.ok ⟨coordinate, []⟩),
    .style .standard, .classifier classifier]

end Divided

theorem requested_of_settings_of_plain :
    ∃ step, (Builder.ofSettings (Divided.settings " 0.21 " none)).build Divided.loader =
        .ok step ∧
      (Builder.ofSettings (Divided.settings " 0.21 " none)).Provisions Divided.loader
        ⟨"com.facebook", "ktfmt", "0.21", none⟩ := by
  obtain ⟨step, hbuilt⟩ : ∃ step,
      (Builder.ofSettings (Divided.settings " 0.21 " none)).build Divided.loader = .ok step :=
    ⟨_, rfl⟩
  obtain ⟨version, configuration, hversion, -, hprovisions, hrequested, -⟩ :=
    requested_of_settings hbuilt
  obtain rfl : " 0.21 " = version := Option.some.inj hversion
  obtain ⟨hnumber, hclassifier⟩ := hrequested.faithful.mpr (by decide)
  rcases configuration with ⟨⟨group, artifact, number, classifier⟩, style, _, _⟩
  obtain rfl : group = "com.facebook" := hrequested.group
  obtain rfl : artifact = "ktfmt" := hrequested.artifact
  obtain rfl : number = "0.21" := hnumber
  obtain rfl : classifier = none := hclassifier
  exact ⟨step, hbuilt, hprovisions⟩

/-- With a colon in its version, a step can ask for a classifier that was not asked for, and be
equal to the step of another version. -/
theorem not_requested_of_divided_version :
    (¬ ∀ (settings : List (Setting Unit)) (standard : Loader Unit) (version : String)
        (coordinate : Coordinate), Setting.last? Setting.version? settings = some version →
        (Builder.ofSettings settings).Provisions standard coordinate →
        coordinate.version = Text.trim version ∧
          coordinate.classifier = Setting.asked settings) ∧
      ∃ step twin,
        (Builder.ofSettings (Divided.settings "0.21:sources" (some "javadoc"))).build
          Divided.loader = .ok step ∧
        (Builder.ofSettings (Divided.settings "0.21" (some "javadoc"))).build
          Divided.loader = .ok twin ∧
        step.identity = twin.identity := by
  constructor
  · intro hclaim
    obtain ⟨configuration, hconfigured, hcoordinate⟩ : ∃ configuration,
        (Builder.ofSettings (Divided.settings "0.21:sources" none)).configuration
          Divided.loader = .ok configuration ∧
        configuration.coordinate = ⟨"com.facebook", "ktfmt", "0.21", some "sources"⟩ :=
      ⟨_, rfl, rfl⟩
    have hsame := hclaim _ _ "0.21:sources" _ rfl (provisions_of_configuration hconfigured)
    rw [hcoordinate] at hsame
    exact absurd hsame.1 (by decide)
  · have hconfigured (version : String) (hversion : version ∈ ["0.21:sources", "0.21"]) :
        ∃ configuration, (Builder.ofSettings (Divided.settings version (some "javadoc"))
          ).configuration Divided.loader = .ok configuration ∧
        configuration.coordinate = ⟨"com.facebook", "ktfmt", "0.21", some "javadoc"⟩ ∧
        configuration.style = .standard := by
      rw [List.mem_cons, List.mem_singleton] at hversion
      rcases hversion with rfl | rfl <;> exact ⟨_, rfl, rfl, rfl⟩
    obtain ⟨first, hfirst, hcoordinate, hstyle⟩ := hconfigured "0.21:sources" (by decide)
    obtain ⟨second, hsecond, hother, hotherStyle⟩ := hconfigured "0.21" (by decide)
    refine ⟨_, _, build_of_configuration hfirst, build_of_configuration hsecond, ?_⟩
    rw [Configuration.identity_step_eq_iff, Configuration.agrees_iff]
    exact ⟨hcoordinate.trans hother.symm, hstyle.trans hotherStyle.symm⟩

/-! Whether the coordinate that a step asks for can be read from its own text. The parts that
come from the version can always be, but nothing looks at the classifier that was set. -/

theorem wellFormed_iff_of_versionText {settings : List (Setting World)} {version number : String}
    {extra : Option String} (hread : VersionText version number extra) :
    Coordinate.WellFormed ⟨mavenGroup, stepName, number, (Setting.asked settings).or extra⟩ ↔
      ∀ classifier ∈ Setting.asked settings, ':' ∉ classifier.toList := by
  have hformed : Coordinate.WellFormed ⟨mavenGroup, stepName, number, extra⟩ :=
    Coordinate.wellFormed_of_parse? hread.parse?_eq
  cases hasked : Setting.asked settings with
  | none =>
      rw [Option.none_or]
      exact iff_of_true hformed nofun
  | some classifier =>
      obtain ⟨hvisible, htrimmed⟩ := Setting.asked_eq_some hasked
      rw [Option.some_or]
      constructor
      · rintro hwell _ ⟨⟩
        exact (hwell classifier (by simp [Coordinate.parts])).undivided
      · intro hundivided part hpart
        simp only [Coordinate.parts, Option.toList_some, List.mem_append,
          List.mem_singleton] at hpart
        rcases hpart with hfront | rfl
        · exact hformed part (List.mem_append_left _ hfront)
        · exact ⟨hvisible, Text.trim_eq_self_iff.mp htrimmed, hundivided part rfl⟩

/-- Why a builder does not build: the first of these that holds. -/
inductive Refusal (settings : List (Setting World)) : StepError → Prop
  | versionless
      (hversion : ∀ version ∈ Setting.last? Setting.version? settings, Text.isBlankText version) :
      Refusal settings (.missingArgument "version")
  | provisionerless {version : String}
      (hversion : Setting.last? Setting.version? settings = some version)
      (hvisible : Text.isBlankText version = false)
      (hprovisioner : Setting.last? Setting.provisioner? settings = none) :
      Refusal settings (.missingArgument "provisioner")
  | styleless {version : String} {provisioner : Provisioner World}
      (hversion : Setting.last? Setting.version? settings = some version)
      (hvisible : Text.isBlankText version = false)
      (hprovisioner : Setting.last? Setting.provisioner? settings = some provisioner)
      (hstyle : Setting.last? Setting.style? settings = none) :
      Refusal settings (.missingArgument "style")
  | malformed {version : String} {provisioner : Provisioner World} {style : Style}
      (hversion : Setting.last? Setting.version? settings = some version)
      (hvisible : Text.isBlankText version = false)
      (hprovisioner : Setting.last? Setting.provisioner? settings = some provisioner)
      (hstyle : Setting.last? Setting.style? settings = some style)
      (hmalformed : ∀ number extra, ¬ VersionText version number extra) :
      Refusal settings
        (.provision (.invalidCoordinate ("com.facebook:ktfmt:" ++ Text.trim version)))

theorem configuration_eq_error_iff {settings : List (Setting World)} (standard : Loader World)
    {error : StepError} :
    (Builder.ofSettings settings).configuration standard = .error error ↔
      Refusal settings error := by
  rw [Builder.configuration, Builder.provisioner?_ofSettings, Builder.style?_ofSettings]
  constructor
  · intro hrefused
    split at hrefused
    · next hvisible =>
        cases hrefused
        refine .versionless fun version hversion => ?_
        by_contra hblank
        have hsome := visibleVersion?_eq_some_iff.mpr ⟨hversion, eq_false_of_ne_true hblank⟩
        cases hvisible.symm.trans hsome
    · next version hvisible hprovisioner =>
        cases hrefused
        obtain ⟨hversion, hblank⟩ := visibleVersion?_eq_some_iff.mp hvisible
        exact .provisionerless hversion hblank hprovisioner
    · next version provisioner hvisible hprovisioner hstyle =>
        cases hrefused
        obtain ⟨hversion, hblank⟩ := visibleVersion?_eq_some_iff.mp hvisible
        exact .styleless hversion hblank hprovisioner hstyle
    · next version provisioner style hvisible hprovisioner hstyle =>
        obtain ⟨hversion, hblank⟩ := visibleVersion?_eq_some_iff.mp hvisible
        split at hrefused
        · next hcoordinate =>
            obtain ⟨hmalformed, rfl⟩ := Builder.coordinate_eq_error_iff.mp hcoordinate
            cases hrefused
            exact .malformed hversion hblank hprovisioner hstyle hmalformed
        · cases hrefused
  · rintro (hblank | ⟨hversion, hvisible, hprovisioner⟩ |
      ⟨hversion, hvisible, hprovisioner, hstyle⟩ |
        ⟨hversion, hvisible, hprovisioner, hstyle, hmalformed⟩)
    · have hnone : (Builder.ofSettings settings).visibleVersion? = none := by
        rw [Option.eq_none_iff_forall_ne_some]
        intro version hvisible
        obtain ⟨hversion, hseen⟩ := visibleVersion?_eq_some_iff.mp hvisible
        exact absurd (hblank version hversion) (ne_true_of_eq_false hseen)
      rw [hnone]
    · rw [visibleVersion?_eq_some_iff.mpr ⟨hversion, hvisible⟩, hprovisioner]
    · rw [visibleVersion?_eq_some_iff.mpr ⟨hversion, hvisible⟩, hprovisioner, hstyle]
    · simp only [visibleVersion?_eq_some_iff.mpr ⟨hversion, hvisible⟩, hprovisioner, hstyle,
        Builder.coordinate_eq_error_iff.mpr ⟨hmalformed, rfl⟩]
      rfl

theorem build_eq_error_iff {settings : List (Setting World)} (standard : Loader World)
    {error : StepError} :
    (Builder.ofSettings settings).build standard = .error error ↔ Refusal settings error := by
  rw [← configuration_eq_error_iff standard]
  cases hconfigured : (Builder.ofSettings settings).configuration standard with
  | error refused => simp only [Builder.build, hconfigured, Except.error.injEq]
  | ok configuration => simp [build_of_configuration hconfigured]

/-- Of a builder that is given a version, a provisioner and a style, only the text of the version
can be refused. -/
theorem standardStep_eq_error_iff {version : String}
    (hvisible : Text.isBlankText version = false) (provisioner : Provisioner World)
    (style : Style) (standard : Loader World) {error : StepError} :
    Builder.standardStep version provisioner style standard = .error error ↔
      (∀ number extra, ¬ VersionText version number extra) ∧
        error = .provision (.invalidCoordinate ("com.facebook:ktfmt:" ++ Text.trim version)) := by
  have hbuilder : Builder.standardStep version provisioner style standard =
      (Builder.ofSettings [.version version, .provisioner provisioner, .style style]).build
        standard := rfl
  rw [hbuilder, build_eq_error_iff]
  constructor
  · rintro (hblank | ⟨-, -, hprovisioner⟩ | ⟨-, -, -, hstyle⟩ | ⟨hversion, -, -, -, hmalformed⟩)
    · exact absurd (hblank version rfl) (ne_true_of_eq_false hvisible)
    · cases hprovisioner
    · cases hstyle
    · cases hversion
      exact ⟨hmalformed, rfl⟩
  · rintro ⟨hmalformed, rfl⟩
    exact .malformed rfl hvisible rfl rfl hmalformed

/-- A coordinate that a step asks for can be read from its text, unless there is a colon in the
classifier that was set. No classifier is a reason not to build. -/
theorem wellFormed_of_settings (settings : List (Setting World)) (standard : Loader World) :
    (∀ step, (Builder.ofSettings settings).build standard = .ok step →
      ∃ configuration, (Builder.ofSettings settings).configuration standard =
          .ok configuration ∧
        (Builder.ofSettings settings).Provisions standard configuration.coordinate ∧
        (Coordinate.parse? configuration.coordinate.text = some configuration.coordinate ↔
          ∀ classifier ∈ Setting.asked settings, ':' ∉ classifier.toList)) ∧
    ∀ error, (Builder.ofSettings settings).build standard = .error error ↔
      Refusal settings error := by
  constructor
  · intro step hbuilt
    obtain ⟨configuration, hconfigured, -⟩ := configuration_of_build hbuilt
    obtain ⟨version, number, extra, -, hread, hcoordinate⟩ :=
      configuration_ofSettings hconfigured
    refine ⟨configuration, hconfigured, provisions_of_configuration hconfigured, ?_⟩
    rw [Coordinate.parse?_text_eq_some_iff, hcoordinate]
    exact wellFormed_iff_of_versionText hread
  · intro error
    rw [← configuration_eq_error_iff standard]
    cases hconfigured : (Builder.ofSettings settings).configuration standard with
    | error refused => simp only [Builder.build, hconfigured, Except.error.injEq]
    | ok configuration => simp [build_of_configuration hconfigured]

theorem wellFormed_of_settings_of_undivided :
    ∃ step, (Builder.ofSettings (Divided.settings "0.21" (some "sources"))).build
        Divided.loader = .ok step ∧
      ∃ coordinate, (Builder.ofSettings (Divided.settings "0.21" (some "sources"))).Provisions
          Divided.loader coordinate ∧
        Coordinate.parse? coordinate.text = some coordinate := by
  obtain ⟨step, hbuilt⟩ : ∃ step, (Builder.ofSettings
      (Divided.settings "0.21" (some "sources"))).build Divided.loader = .ok step := ⟨_, rfl⟩
  obtain ⟨configuration, -, hprovisions, hread⟩ := (wellFormed_of_settings _ _).1 step hbuilt
  refine ⟨step, hbuilt, configuration.coordinate, hprovisions, hread.mpr ?_⟩
  rintro _ ⟨⟩
  decide

/-- With a colon in the classifier that was set, a step asks for a coordinate that cannot be
read. -/
theorem not_wellFormed_of_divided_classifier :
    ¬ ∀ (settings : List (Setting Unit)) (standard : Loader Unit) (coordinate : Coordinate),
        (Builder.ofSettings settings).Provisions standard coordinate →
        Coordinate.parse? coordinate.text = some coordinate := by
  intro hclaim
  obtain ⟨configuration, hconfigured, hcoordinate⟩ : ∃ configuration,
      (Builder.ofSettings (Divided.settings "0.21" (some "a:b"))).configuration
        Divided.loader = .ok configuration ∧
      configuration.coordinate = ⟨"com.facebook", "ktfmt", "0.21", some "a:b"⟩ :=
    ⟨_, rfl, rfl⟩
  have hread := hclaim _ _ _ (provisions_of_configuration hconfigured)
  rw [hcoordinate] at hread
  exact absurd hread (by decide)

end CodeFormatting.Ktfmt
