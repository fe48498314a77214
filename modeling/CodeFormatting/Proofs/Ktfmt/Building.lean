import CodeFormatting.Proofs.Ktfmt.Coordinate
namespace CodeFormatting.Ktfmt

/-! What building comes to. Nothing counts but the last setting of each kind, blanks around a
version or a classifier do not count either, and whether there is a provisioner counts, but not
what it answers. -/

variable {World Other : Type}

namespace Setting

inductive Argument
  | version
  | provisioner
  | style
  deriving DecidableEq, Repr

namespace Argument

/-- The arguments that a builder needs, in the order in which they are looked for. -/
def all : List Argument :=
  [.version, .provisioner, .style]

def name : Argument → String
  | .version => "version"
  | .provisioner => "provisioner"
  | .style => "style"

end Argument

/-- What is not given. A blank version is none. -/
def Missing (settings : List (Setting World)) : Argument → Prop
  | .version => ∀ version ∈ last? version? settings, Text.isBlankText version
  | .provisioner => last? provisioner? settings = none
  | .style => last? style? settings = none

def FirstMissing (settings : List (Setting World)) (argument : Argument) : Prop :=
  ∃ before after, Argument.all = before ++ argument :: after ∧
    Missing settings argument ∧ ∀ earlier ∈ before, ¬ Missing settings earlier

/-- The same settings to begin with, up to blanks, with a provisioner in both or in neither. -/
structure Alike (settings : List (Setting World)) (others : List (Setting Other)) : Prop where
  version : (last? version? settings).map Text.trim = (last? version? others).map Text.trim
  provisioner : (last? provisioner? settings).isSome = (last? provisioner? others).isSome
  style : last? style? settings = last? style? others
  classifier : (last? classifier? settings).map (Option.map Text.trim) =
    (last? classifier? others).map (Option.map Text.trim)

theorem asked_eq (settings : List (Setting World)) :
    asked settings = ((last? classifier? settings).map (Option.map Text.trim)).elim
      (some selfContained) (Option.filter (· ≠ "")) := by
  rw [asked]
  rcases last? classifier? settings with _ | _ | text
  · rfl
  · rfl
  · simp only [Text.isBlankText_iff, Option.map_some, Option.elim_some, Option.filter_some]
    by_cases hblank : Text.trim text = "" <;> simp [hblank]

theorem Alike.asked_eq {settings : List (Setting World)} {others : List (Setting Other)}
    (halike : Alike settings others) : asked settings = asked others := by
  rw [Setting.asked_eq, halike.classifier, ← Setting.asked_eq]

end Setting

namespace Builder

/-- The same builder without the blanks around its texts. -/
def trimmed (builder : Builder World) : Builder World :=
  { builder with
    version? := builder.version?.map Text.trim
    classifier? := builder.classifier?.map Text.trim }

theorem visibleVersion?_trimmed (builder : Builder World) :
    builder.trimmed.visibleVersion? = builder.visibleVersion?.map Text.trim := by
  rw [visibleVersion?, visibleVersion?, trimmed]
  cases builder.version? with
  | none => rfl
  | some version =>
      have hblank : Text.isBlankText (Text.trim version) = Text.isBlankText version := by
        rw [Bool.eq_iff_iff, Text.isBlankText_iff, Text.isBlankText_iff, Text.trim_trim]
      rw [Option.map_some, Option.filter_some, Option.filter_some, hblank]
      split <;> rfl

theorem coordinate_trim (version : String) (classifier : Option String) :
    Builder.coordinate (Text.trim version) (classifier.map Text.trim) =
      Builder.coordinate version classifier := by
  unfold Builder.coordinate
  cases classifier with
  | none => simp only [Text.trim_trim, Option.map_none]
  | some classifier => simp only [Text.trim_trim, Option.map_some]

theorem configuration_trimmed (builder : Builder World) (standard : Loader World) :
    builder.trimmed.configuration standard = builder.configuration standard := by
  rw [configuration, configuration, visibleVersion?_trimmed]
  cases builder.visibleVersion? with
  | none => rfl
  | some version =>
      simp only [trimmed, Option.map_some]
      cases builder.provisioner? with
      | none => rfl
      | some provisioner =>
          cases builder.style? with
          | none => rfl
          | some style => simp only [coordinate_trim]

theorem build_trimmed (builder : Builder World) (standard : Loader World) :
    builder.trimmed.build standard = builder.build standard := by
  rw [build, build, configuration_trimmed]

/-- The name and the key of a step that formats in a style with what a coordinate names. -/
def identityOf (coordinate : Coordinate) (style : Style) : Step.Identity :=
  (stepName, (Json.object [("coordinate", coordinate.toJson), ("style", style.toJson)]).compact)

theorem map_identity_build (builder : Builder World) (standard : Loader World) :
    (builder.build standard).map Step.identity =
      (builder.configuration standard).map fun configuration =>
        identityOf configuration.coordinate configuration.style := by
  cases hconfigured : builder.configuration standard with
  | error error => simp only [build, hconfigured, Except.map]
  | ok configuration =>
      rw [build_of_configuration hconfigured]
      rfl

theorem map_identity_build_eq {builder : Builder World} {other : Builder Other}
    (hversion : builder.version? = other.version?)
    (hprovisioner : builder.provisioner?.isSome = other.provisioner?.isSome)
    (hstyle : builder.style? = other.style?) (hclassifier : builder.classifier? = other.classifier?)
    (standard : Loader World) (fallback : Loader Other) :
    (builder.build standard).map Step.identity = (other.build fallback).map Step.identity := by
  simp only [map_identity_build, configuration, visibleVersion?, hversion, hstyle, hclassifier]
  cases other.version?.filter fun text => !Text.isBlankText text with
  | none => rfl
  | some version =>
      cases hgiven : builder.provisioner? <;> cases hother : other.provisioner? <;>
        rw [hgiven, hother] at hprovisioner
      · rfl
      · cases hprovisioner
      · cases hprovisioner
      · cases other.style? with
        | none => rfl
        | some style =>
            dsimp only
            cases Builder.coordinate version other.classifier? <;> rfl

end Builder

/-- What building comes to: the first thing that is missing, else the text of a coordinate that
cannot be read, else a step that has not been initialized. -/
inductive Building (settings : List (Setting World)) : Except StepError (Step World) → Prop
  | missing {argument : Setting.Argument} (hfirst : Setting.FirstMissing settings argument) :
      Building settings (.error (.missingArgument argument.name))
  | malformed {version : String} (hcomplete : ∀ argument, ¬ Setting.Missing settings argument)
      (hversion : Setting.last? Setting.version? settings = some version)
      (hmalformed : ∀ coordinate : Coordinate, ¬ (coordinate.WellFormed ∧
        Coordinate.Spaced coordinate.text ("com.facebook:ktfmt:" ++ Text.trim version))) :
      Building settings
        (.error (.provision (.invalidCoordinate ("com.facebook:ktfmt:" ++ Text.trim version))))
  | built {version : String} {coordinate : Coordinate} {step : Step World}
      (hcomplete : ∀ argument, ¬ Setting.Missing settings argument)
      (hversion : Setting.last? Setting.version? settings = some version)
      (hformed : coordinate.WellFormed)
      (hspaced : Coordinate.Spaced coordinate.text ("com.facebook:ktfmt:" ++ Text.trim version))
      (hname : step.name = "ktfmt") (hfresh : step.isInitialized = false) :
      Building settings (.ok step)

section

variable {settings : List (Setting World)} {version : String} {provisioner : Provisioner World}
  {style : Style}

theorem Setting.not_missing_version (hversion : last? version? settings = some version)
    (hvisible : Text.isBlankText version = false) : ¬ Missing settings .version :=
  fun hblank => ne_true_of_eq_false hvisible (hblank version hversion)

theorem Setting.not_missing_provisioner
    (hprovisioner : last? provisioner? settings = some provisioner) :
    ¬ Missing settings .provisioner := by
  rw [Missing, hprovisioner]
  exact Option.some_ne_none provisioner

theorem Setting.not_missing_style (hstyle : last? style? settings = some style) :
    ¬ Missing settings .style := by
  rw [Missing, hstyle]
  exact Option.some_ne_none style

theorem Setting.not_missing (hversion : last? version? settings = some version)
    (hvisible : Text.isBlankText version = false)
    (hprovisioner : last? provisioner? settings = some provisioner)
    (hstyle : last? style? settings = some style) (argument : Argument) :
    ¬ Missing settings argument := by
  cases argument with
  | version => exact not_missing_version hversion hvisible
  | provisioner => exact not_missing_provisioner hprovisioner
  | style => exact not_missing_style hstyle

theorem exists_versionText_iff :
    (∃ number extra, VersionText version number extra) ↔
      ∃ coordinate : Coordinate, coordinate.WellFormed ∧
        Coordinate.Spaced coordinate.text ("com.facebook:ktfmt:" ++ Text.trim version) := by
  constructor
  · rintro ⟨number, extra, hread⟩
    exact ⟨_, Coordinate.parse?_eq_some_iff_spaced.mp hread.parse?_eq⟩
  · rintro ⟨coordinate, hspaced⟩
    have hparse := Coordinate.parse?_eq_some_iff_spaced.mpr hspaced
    exact ⟨_, _, (parse?_mavenCoordinate_iff.mp hparse).2.2⟩

theorem Refusal.building {error : StepError} (hrefusal : Refusal settings error) :
    Building settings (.error error) := by
  cases hrefusal with
  | versionless hversion =>
      have hfirst : Setting.FirstMissing settings .version := ⟨[], _, rfl, hversion, nofun⟩
      exact .missing hfirst
  | provisionerless hversion hvisible hprovisioner =>
      have hfirst : Setting.FirstMissing settings .provisioner := by
        refine ⟨[.version], _, rfl, hprovisioner, ?_⟩
        rw [List.forall_mem_singleton]
        exact Setting.not_missing_version hversion hvisible
      exact .missing hfirst
  | styleless hversion hvisible hprovisioner hstyle =>
      have hfirst : Setting.FirstMissing settings .style := by
        refine ⟨[.version, .provisioner], _, rfl, hstyle, ?_⟩
        rw [List.forall_mem_cons, List.forall_mem_singleton]
        exact ⟨Setting.not_missing_version hversion hvisible,
          Setting.not_missing_provisioner hprovisioner⟩
      exact .missing hfirst
  | malformed hversion hvisible hprovisioner hstyle hmalformed =>
      refine .malformed (Setting.not_missing hversion hvisible hprovisioner hstyle) hversion ?_
      intro coordinate hread
      obtain ⟨number, extra, hversionText⟩ := exists_versionText_iff.mpr ⟨coordinate, hread⟩
      exact hmalformed number extra hversionText

theorem building_build (settings : List (Setting World)) (standard : Loader World) :
    Building settings ((Builder.ofSettings settings).build standard) := by
  cases hbuilt : (Builder.ofSettings settings).build standard with
  | error error => exact ((build_eq_error_iff standard).mp hbuilt).building
  | ok step =>
      obtain ⟨configuration, hconfigured, rfl⟩ := configuration_of_build hbuilt
      obtain ⟨version, hvisible, hprovisioner, hstyle, hcoordinate, -⟩ :=
        Builder.configuration_eq_ok_iff.mp hconfigured
      obtain ⟨hversion, hblank⟩ := visibleVersion?_eq_some_iff.mp hvisible
      rw [Builder.provisioner?_ofSettings] at hprovisioner
      rw [Builder.style?_ofSettings] at hstyle
      obtain ⟨number, extra, hread, -⟩ := Builder.coordinate_eq_ok_iff.mp hcoordinate
      obtain ⟨coordinate, hformed, hspaced⟩ := exists_versionText_iff.mp ⟨number, extra, hread⟩
      exact .built (Setting.not_missing hversion hblank hprovisioner hstyle) hversion hformed
        hspaced rfl rfl

end

section

variable {settings : List (Setting World)}

theorem Setting.Alike.trimmed_eq {others : List (Setting World)} (halike : Alike settings others)
    (hprovisioner : last? provisioner? settings = last? provisioner? others)
    (hloader : last? loader? settings = last? loader? others) :
    (Builder.ofSettings settings).trimmed = (Builder.ofSettings others).trimmed := by
  simp only [Builder.trimmed, Builder.version?_ofSettings, Builder.provisioner?_ofSettings,
    Builder.style?_ofSettings, Builder.loader?_ofSettings, Builder.map_classifier?_ofSettings,
    halike.version, hprovisioner, halike.style, hloader, halike.asked_eq]

theorem Setting.Alike.map_identity_build_eq {others : List (Setting Other)}
    (halike : Alike settings others) (standard : Loader World) (fallback : Loader Other) :
    ((Builder.ofSettings settings).build standard).map Step.identity =
      ((Builder.ofSettings others).build fallback).map Step.identity := by
  rw [← (Builder.ofSettings settings).build_trimmed, ← (Builder.ofSettings others).build_trimmed]
  apply Builder.map_identity_build_eq
  · simp only [Builder.trimmed, Builder.version?_ofSettings, halike.version]
  · simp only [Builder.trimmed, Builder.provisioner?_ofSettings, halike.provisioner]
  · simp only [Builder.trimmed, Builder.style?_ofSettings, halike.style]
  · simp only [Builder.trimmed, Builder.map_classifier?_ofSettings, halike.asked_eq]

end

/-- A step that was built, and only looked at since, has asked for nothing. -/
def Builder.Unasked (builder : Builder World) (standard : Loader World) : Prop :=
  ∃ observed, builder.observed.build (Loader.observed standard) = .ok observed ∧
    ∀ calls world, (∀ call ∈ calls, call.initializes = false) →
      ∀ visit ∈ observed.visits calls world, visit.notes = []

theorem unasked_of_build {builder : Builder World} {standard : Loader World} {step : Step World}
    (hbuilt : builder.build standard = .ok step) : builder.Unasked standard := by
  obtain ⟨configuration, hconfigured, -⟩ := configuration_of_build hbuilt
  exact ⟨_, build_of_configuration (configuration_observed hconfigured),
    fun calls world hlooks visit hvisit => Step.notes_eq_nil_of_mem_visits hlooks hvisit⟩

/-- What is built is decided by the last setting of each kind, up to blanks around its text. What
a provisioner or a loader would answer makes no difference, since neither is asked. -/
theorem outcome_of_settings (settings : List (Setting World)) (standard : Loader World) :
    Building settings ((Builder.ofSettings settings).build standard) ∧
    (∀ step, (Builder.ofSettings settings).build standard = .ok step →
      (Builder.ofSettings settings).Unasked standard) ∧
    (∀ others : List (Setting World), Setting.Alike settings others →
      Setting.last? Setting.provisioner? settings = Setting.last? Setting.provisioner? others →
      Setting.last? Setting.loader? settings = Setting.last? Setting.loader? others →
      (Builder.ofSettings settings).build standard =
        (Builder.ofSettings others).build standard) ∧
    ∀ (Other : Type) (others : List (Setting Other)) (fallback : Loader Other),
      Setting.Alike settings others →
      ((Builder.ofSettings settings).build standard).map Step.identity =
        ((Builder.ofSettings others).build fallback).map Step.identity := by
  refine ⟨building_build settings standard, fun step hbuilt => unasked_of_build hbuilt, ?_, ?_⟩
  · intro others halike hprovisioner hloader
    rw [← Builder.build_trimmed, halike.trimmed_eq hprovisioner hloader, Builder.build_trimmed]
  · intro Other others fallback halike
    exact halike.map_identity_build_eq standard fallback

namespace Rewritten

/-- Settings of which some are taken back, with blanks around texts. -/
def settings : List (Setting Unit) :=
  [.style .google, .version "0.18", .classifier (some " "),
    .provisioner fun _ => pure (.error .noRepository), .version " 0.21\u3000", .style .standard,
    .classifier (some "\tsources")]

/-- The settings that remain of these, in a world that counts what is asked. -/
def remaining : List (Setting Nat) :=
  [.classifier (some "sources"), .style .standard,
    .provisioner fun coordinate asked => (.ok ⟨coordinate, []⟩, asked + 1), .version "0.21"]

def loader {World : Type} : Loader World :=
  fun _ => pure (.error (.rejected ""))

end Rewritten

theorem outcome_of_settings_of_rewritten :
    ∃ step twin, (Builder.ofSettings Rewritten.settings).build Rewritten.loader = .ok step ∧
      (Builder.ofSettings Rewritten.remaining).build Rewritten.loader = .ok twin ∧
      step.name = "ktfmt" ∧ step.isInitialized = false ∧ step.identity = twin.identity := by
  obtain ⟨step, hbuilt⟩ : ∃ step,
      (Builder.ofSettings Rewritten.settings).build Rewritten.loader = .ok step := ⟨_, rfl⟩
  obtain ⟨twin, hother⟩ : ∃ twin,
      (Builder.ofSettings Rewritten.remaining).build Rewritten.loader = .ok twin := ⟨_, rfl⟩
  have halike : Setting.Alike Rewritten.settings Rewritten.remaining :=
    ⟨by decide, rfl, rfl, by decide⟩
  obtain ⟨hbuilding, -, -, hsame⟩ := outcome_of_settings Rewritten.settings Rewritten.loader
  have hidentity := hsame Nat Rewritten.remaining Rewritten.loader halike
  rw [hbuilt] at hbuilding hidentity
  rw [hother] at hidentity
  cases hbuilding with
  | built _ _ _ _ hname hfresh =>
      exact ⟨step, twin, hbuilt, hother, hname, hfresh, Except.ok.inj hidentity⟩

end CodeFormatting.Ktfmt
