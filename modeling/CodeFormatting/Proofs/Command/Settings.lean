import CodeFormatting.Proofs.Command.Failure
import CodeFormatting.Proofs.Config.Load
import CodeFormatting.Proofs.Ktfmt.Coordinate
import CodeFormatting.Proofs.Ktfmt.Style
namespace CodeFormatting.Command

/-! What a formatting command is set to. What its command line leaves out is taken from the
configuration, and what that leaves out has a default. -/

open Ktfmt (Style VersionText)

variable {source : Option String} {config : Config} {merged : KtfmtConfig}
  {environment : Environment} {home : Option Path} {failure : Failure}

/-- Which style goes before the others: the one on the command line, then the one that is named
in the text of the configuration. -/
inductive Chosen : Option Style → Option String → Style → Prop
  | given (style : Style) (source : Option String) : Chosen (some style) source style
  | named {source : Option String} {name : String} {style : Style}
      (hdocumented : Config.Documented source (some name))
      (hname : Style.sameLetters style.name (Text.trim name) = true) : Chosen none source style
  | unnamed {source : Option String} (hdocumented : Config.Documented source none) :
      Chosen none source .standard

theorem exists_style_of_documented {style? : Option String}
    (hdocumented : Config.Documented source style?) (hstyle : merged.style = style?) :
    ∃ style, merged.effectiveStyle = .ok style ∧ Chosen none source style := by
  cases hdocumented with
  | absent =>
      refine ⟨.standard, ?_, .unnamed .absent⟩
      rw [KtfmtConfig.effectiveStyle, hstyle]
      rfl
  | @written text document hparse =>
      obtain ⟨style, hread⟩ := Config.exists_style_of_parse hparse
      have hmerged : merged.effectiveStyle = .ok style := by
        rw [KtfmtConfig.effectiveStyle, hstyle]
        exact hread
      have hdocumented := Config.Documented.written hparse
      refine ⟨style, hmerged, ?_⟩
      cases hname : document.ktfmt.style with
      | none =>
          rw [KtfmtConfig.effectiveStyle, hname] at hread
          rw [hname] at hdocumented
          cases hread
          exact .unnamed hdocumented
      | some name =>
          rw [KtfmtConfig.effectiveStyle, hname] at hread
          rw [hname] at hdocumented
          exact .named hdocumented (Style.parse_eq_ok_iff.mp hread)

theorem exists_chosen (hobtained : Config.Obtained source config) (given : KtfmtArguments) :
    ∃ style, (given.onto config.ktfmt).effectiveStyle = .ok style ∧
      Chosen given.style source style := by
  cases hgiven : given.style with
  | some style =>
      refine ⟨style, ?_, .given style source⟩
      rw [KtfmtConfig.effectiveStyle, KtfmtArguments.onto, hgiven]
      exact Style.parse_name style
  | none =>
      refine exists_style_of_documented hobtained.documented ?_
      rw [KtfmtArguments.onto, hgiven]
      rfl

/-! What can still fail. -/

/-- Why a command has no step for a version. No reason is about the style, and none about
something that was left out. -/
inductive Unbuilt (version : String) : Failure → Prop
  | homeless : Unbuilt version (.step (.provision .noRepository))
  | malformed (hmalformed : ∀ number extra, ¬ VersionText version number extra) :
      Unbuilt version (.step
        (.provision (.invalidCoordinate ("com.facebook:ktfmt:" ++ Text.trim version))))

/-- Why a command fails once its configuration was read. -/
inductive Remaining (version : String) : Failure → Prop
  | unbuilt {failure : Failure} (hunbuilt : Unbuilt version failure) : Remaining version failure
  | unread (cause : IoError) : Remaining version (.input cause)
  | unformatted (error : FormatError) : Remaining version (.format error)

theorem eq_noRepository_of_repositoryOf {error : ProvisionError}
    (herror : repositoryOf environment home merged = .error error) : error = .noRepository := by
  rw [repositoryOf] at herror
  split at herror
  · cases herror
  · rw [Repository.ofEnvironment] at herror
    split at herror <;> cases herror
    rfl

theorem unbuilt_of_stepOf {style : Style} (hstyle : merged.effectiveStyle = .ok style)
    (hstep : stepOf environment home merged = .error failure) :
    Unbuilt merged.effectiveVersion failure := by
  rw [stepOf] at hstep
  split at hstep
  · next error hrepository =>
      cases hstep
      rw [eq_noRepository_of_repositoryOf hrepository]
      exact .homeless
  · simp only [hstyle] at hstep
    split at hstep
    · next error hbuilt =>
        cases hstep
        obtain ⟨hmalformed, rfl⟩ := (Ktfmt.standardStep_eq_error_iff
          merged.isBlankText_effectiveVersion _ _ _).mp hbuilt
        exact .malformed hmalformed
    · cases hstep

theorem remaining_of_formatInput {step : Step Machine} {mode : Files.Mode} {input : ByteArray}
    {machine : Machine} (version : String)
    (hformat : (formatInput step mode input machine).1 = .error failure) :
    Remaining version failure := by
  cases hinput : String.fromUTF8? input with
  | none =>
      simp only [formatInput, hinput] at hformat
      cases hformat
      exact .unread _
  | some text =>
      rcases hanswer : step.format text machine with ⟨⟨answer, made⟩, next⟩
      simp only [formatInput, hinput, bind, StateT.bind, hanswer] at hformat
      cases answer with
      | error error =>
          cases hformat
          exact .unformatted error
      | ok formatted => cases hformat

theorem remaining_of_perform {call : Call} {path : Option Path} {given : KtfmtArguments}
    {machine : Machine} {style : Style}
    (hconfig : configOf machine ⟨path, .ktfmt given⟩ = .ok config)
    (hstyle : (given.onto config.ktfmt).effectiveStyle = .ok style)
    (hfails : (perform call ⟨path, .ktfmt given⟩ machine).1 = .error failure) :
    Remaining (given.onto config.ktfmt).effectiveVersion failure := by
  cases hstep : stepOf call.environment machine.home (given.onto config.ktfmt) with
  | error error =>
      rw [perform_of_unbuilt hconfig hstep] at hfails
      cases hfails
      exact .unbuilt (unbuilt_of_stepOf hstyle hstep)
  | ok step =>
      by_cases hfiles : given.files = []
      · rw [perform_of_input hconfig hstep hfiles] at hfails
        exact remaining_of_formatInput _ hfails
      · rw [perform_files hconfig hstep hfiles] at hfails
        cases hfails

/-- Whatever configuration was read and whatever is set on the command line, there are a style
and a version. A builder that is given them can refuse no more than the text of the version, and
few reasons are left for a command to fail. -/
theorem settled_of_obtained (hobtained : Config.Obtained source config) (given : KtfmtArguments) :
    ∃ style, (given.onto config.ktfmt).effectiveStyle = .ok style ∧
      Chosen given.style source style ∧
      Text.isBlankText (given.onto config.ktfmt).effectiveVersion = false ∧
      (∀ (World : Type) (provisioner : Provisioner World) (loader : Ktfmt.Loader World)
        (error : StepError),
        Ktfmt.Builder.standardStep (given.onto config.ktfmt).effectiveVersion provisioner style
            loader = .error error ↔
          (∀ number extra,
            ¬ VersionText (given.onto config.ktfmt).effectiveVersion number extra) ∧
          error = .provision (.invalidCoordinate
            ("com.facebook:ktfmt:" ++ Text.trim (given.onto config.ktfmt).effectiveVersion))) ∧
      (∀ environment home failure,
        stepOf environment home (given.onto config.ktfmt) = .error failure →
          Unbuilt (given.onto config.ktfmt).effectiveVersion failure) ∧
      ∀ call path machine failure, configOf machine ⟨path, .ktfmt given⟩ = .ok config →
        (perform call ⟨path, .ktfmt given⟩ machine).1 = .error failure →
          Remaining (given.onto config.ktfmt).effectiveVersion failure := by
  obtain ⟨style, hstyle, hchosen⟩ := exists_chosen hobtained given
  have hvisible := (given.onto config.ktfmt).isBlankText_effectiveVersion
  refine ⟨style, hstyle, hchosen, hvisible, ?_, ?_, ?_⟩
  · intro World provisioner loader error
    exact Ktfmt.standardStep_eq_error_iff hvisible provisioner style loader
  · intro environment home failure hstep
    exact unbuilt_of_stepOf hstyle hstep
  · intro call path machine failure hconfig hfails
    exact remaining_of_perform hconfig hstyle hfails

namespace Spaced

def text : String :=
  "[ktfmt]\nstyle = \" Dropbox \"\n"

def document : Config :=
  { ktfmt := { style := some " Dropbox " } }

def arguments : KtfmtArguments :=
  { version := some " " }

end Spaced

/-- A version that is only a blank, and a name that is written otherwise. -/
theorem settled_of_obtained_of_spaced :
    Chosen none (some Spaced.text) .dropbox ∧
      ∀ (World : Type) (provisioner : Provisioner World) (loader : Ktfmt.Loader World)
        (error : StepError),
        Ktfmt.Builder.standardStep "0.21" provisioner .dropbox loader ≠ .error error := by
  have hparse : Config.parse Spaced.text = .ok Spaced.document := by decide +kernel
  have hversion : (Spaced.arguments.onto Spaced.document.ktfmt).effectiveVersion = "0.21" := by
    decide
  have hnamed : (Spaced.arguments.onto Spaced.document.ktfmt).effectiveStyle = .ok .dropbox := rfl
  obtain ⟨style, hstyle, hchosen, -, hbuilder, -⟩ :=
    settled_of_obtained (.parsed hparse) Spaced.arguments
  obtain rfl : Style.dropbox = style := Except.ok.inj (hnamed.symm.trans hstyle)
  rw [hversion] at hbuilder
  refine ⟨hchosen, ?_⟩
  intro World provisioner loader error hrefused
  obtain ⟨hmalformed, -⟩ := (hbuilder World provisioner loader error).mp hrefused
  exact hmalformed _ _ (.whole (by decide) (by decide))

end CodeFormatting.Command
