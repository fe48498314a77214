import CodeFormatting.Command.Ktfmt
import CodeFormatting.Proofs.Config.Load
namespace CodeFormatting.Command

/-! Which version a builder is handed. A version that is blank counts for nothing, but on the
command line it stands in the way of a version in the configuration all the same. -/

variable {given written : Option String} {version : String}

def isVisible (text : String) : Bool :=
  !Text.isBlankText text

/-- The version on the command line, else the one in the configuration, else the default, where
none counts that is blank. -/
def promisedVersion (given written : Option String) : String :=
  ((given.filter isVisible).or (written.filter isVisible)).getD Ktfmt.defaultVersion

/-- The version that is handed to a builder, with one on the command line and one in the
configuration. -/
inductive Handed : Option String → Option String → String → Prop
  | given {text : String} (written : Option String) (hvisible : isVisible text = true) :
      Handed (some text) written text
  | hidden {text : String} (written : Option String) (hblank : isVisible text = false) :
      Handed (some text) written Ktfmt.defaultVersion
  | written {text : String} (hvisible : isVisible text = true) : Handed none (some text) text
  | blank {text : String} (hblank : isVisible text = false) :
      Handed none (some text) Ktfmt.defaultVersion
  | absent : Handed none none Ktfmt.defaultVersion

/-- A blank version on the command line stands in the way of a version in the configuration, which
is not the default one. -/
def Hides (given written : Option String) : Prop :=
  ∃ blank text, given = some blank ∧ isVisible blank = false ∧ written = some text ∧
    isVisible text = true ∧ text ≠ Ktfmt.defaultVersion

theorem handed_effectiveVersion (given : KtfmtArguments) (config : KtfmtConfig) :
    Handed given.version config.version (given.onto config).effectiveVersion := by
  have hmerged : (given.onto config).effectiveVersion =
      ((given.version.or config.version).filter isVisible).getD Ktfmt.defaultVersion := rfl
  rw [hmerged]
  cases hgiven : given.version with
  | some text =>
      cases hvisible : isVisible text with
      | true => simpa [Option.filter_some, hvisible] using Handed.given config.version hvisible
      | false => simpa [Option.filter_some, hvisible] using Handed.hidden config.version hvisible
  | none =>
      cases hwritten : config.version with
      | none => exact .absent
      | some text =>
          cases hvisible : isVisible text with
          | true => simpa [Option.filter_some, hvisible] using Handed.written hvisible
          | false => simpa [Option.filter_some, hvisible] using Handed.blank hvisible

theorem Handed.eq_promisedVersion_iff (hhanded : Handed given written version) :
    version = promisedVersion given written ↔ ¬ Hides given written := by
  cases hhanded with
  | given written hvisible => simp [promisedVersion, Hides, Option.filter_some, hvisible]
  | written hvisible => simp [promisedVersion, Hides, Option.filter_some, hvisible]
  | blank hblank => simp [promisedVersion, Hides, Option.filter_some, hblank]
  | absent => simp [promisedVersion, Hides]
  | hidden written hblank =>
      cases written with
      | none => simp [promisedVersion, Hides, Option.filter_some, hblank]
      | some text =>
          cases hvisible : isVisible text with
          | true =>
              simp [promisedVersion, Hides, Option.filter_some, hblank, hvisible, @eq_comm _ text]
          | false => simp [promisedVersion, Hides, Option.filter_some, hblank, hvisible]

/-- The step that is built from a version, once the other settings were made out. -/
def stepWith (environment : Environment) (java : Option Path) (repository : Repository)
    (style : Ktfmt.Style) (version : String) : Except Failure (Step Machine) :=
  let loader : Ktfmt.JavaLoader := { environment, java, mainClass := none }
  (Ktfmt.Builder.standardStep version repository.provisioner style loader.loader).mapError .step

/-- A builder is handed the version that is promised, unless a blank one on the command line hides
another. It is never handed a blank one. -/
theorem version_of_stepOf {environment : Environment} {home : Option Path} {given : KtfmtArguments}
    {config : KtfmtConfig} {repository : Repository} {style : Ktfmt.Style}
    (hrepository : repositoryOf environment home (given.onto config) = .ok repository)
    (hstyle : (given.onto config).effectiveStyle = .ok style) :
    ∃ version, Handed given.version config.version version ∧ isVisible version = true ∧
      stepOf environment home (given.onto config) =
        stepWith environment (given.onto config).java repository style version ∧
      (version = promisedVersion given.version config.version ↔
        ¬ Hides given.version config.version) := by
  have hhanded := handed_effectiveVersion given config
  refine ⟨_, hhanded, ?_, ?_, hhanded.eq_promisedVersion_iff⟩
  · rw [isVisible, KtfmtConfig.isBlankText_effectiveVersion]
    rfl
  · simp only [stepOf, stepWith, hrepository, hstyle]
    split
    · next hbuilt =>
        rw [hbuilt]
        rfl
    · next hbuilt =>
        rw [hbuilt]
        rfl

namespace Blank

def arguments : KtfmtArguments :=
  { version := some " ", repository := some ⟨"/repository"⟩ }

def document : KtfmtConfig :=
  { version := some "0.18" }

end Blank

/-- The version in the configuration is passed over for the default one. -/
theorem version_of_stepOf_of_blank :
    stepOf .empty none (Blank.arguments.onto Blank.document) =
        stepWith .empty none ⟨⟨"/repository"⟩⟩ .standard "0.21" ∧
      promisedVersion Blank.arguments.version Blank.document.version = "0.18" := by
  obtain ⟨version, hhanded, -, hstep, -⟩ :=
    @version_of_stepOf .empty none Blank.arguments Blank.document ⟨⟨"/repository"⟩⟩ .standard rfl
      rfl
  refine ⟨?_, by decide⟩
  cases hhanded with
  | given written hvisible => cases hvisible
  | hidden written hblank => exact hstep

theorem not_promisedVersion_of_blank :
    ¬ ∀ (environment : Environment) (home : Option Path) (given : KtfmtArguments)
        (config : KtfmtConfig) (repository : Repository) (style : Ktfmt.Style),
        repositoryOf environment home (given.onto config) = .ok repository →
        (given.onto config).effectiveStyle = .ok style →
        stepOf environment home (given.onto config) =
          stepWith environment (given.onto config).java repository style
            (promisedVersion given.version config.version) := by
  intro hclaim
  have hsame := hclaim .empty none Blank.arguments Blank.document ⟨⟨"/repository"⟩⟩ .standard rfl
    rfl
  have hkeys := congrArg (fun step? => step?.toOption.map Step.key) hsame
  revert hkeys
  decide +kernel

end CodeFormatting.Command
