import CodeFormatting.Proofs.Command.Check
import CodeFormatting.Proofs.Files.Initialization
import CodeFormatting.Proofs.Ktfmt.Initialization
namespace CodeFormatting.Command

/-! A formatting run that fails before it could format anything. Whatever it fails for comes
before the first file is opened and before java is started, so that it leaves nothing behind
but records. -/

open Files (begun formatTogether Fair turns)

variable {call : Call} {source : Option Path} {given : KtfmtArguments} {config : Config}
  {step : Step Machine} {machine next : Machine} {mode : Files.Mode} {cause : StepError}
  {reports : List Files.Report} {result : Except Failure Result}

/-- Why a formatting run fails before it formats. -/
inductive Fails (call : Call) (source : Option Path) (given : KtfmtArguments)
    (machine : Machine) : Prop
  | unconfigured {error : ConfigError}
      (hconfig : configOf machine ⟨source, .ktfmt given⟩ = .error error) :
      Fails call source given machine
  | unbuilt {config : Config} {failure : Failure}
      (hconfig : configOf machine ⟨source, .ktfmt given⟩ = .ok config)
      (hstep : stepOf call.environment machine.home (given.onto config.ktfmt) = .error failure) :
      Fails call source given machine
  | unread {config : Config} {step : Step Machine}
      (hconfig : configOf machine ⟨source, .ktfmt given⟩ = .ok config)
      (hstep : stepOf call.environment machine.home (given.onto config.ktfmt) = .ok step)
      (hfiles : given.files = []) (hinput : String.fromUTF8? call.input = none) :
      Fails call source given machine
  | uninitialized {config : Config} {step : Step Machine} {error : FormatError}
      (hconfig : configOf machine ⟨source, .ktfmt given⟩ = .ok config)
      (hstep : stepOf call.environment machine.home (given.onto config.ktfmt) = .ok step)
      (hprepare : (step.prepare machine).1.1 = .error error) :
      Fails call source given machine

/-- A result without output or success, or none at all. -/
def Fruitless (result : Except Failure Result) : Prop :=
  ∀ written, result = .ok written → written = ⟨"", false⟩

/-! What a run over files whose step fails comes to. -/

/-- A step of a command that fails has only written records by then, and fails again whenever
nothing else has happened. -/
theorem resolve_of_prepare {environment : Environment} {home : Option Path}
    {ktfmt : KtfmtConfig} {error : FormatError}
    (hstep : stepOf environment home ktfmt = .ok step)
    (hprepare : (step.prepare machine).1.1 = .error error) :
    ∃ cause, ∀ next, Recorded machine next →
      (step.resolve next).1.1 = .error cause ∧ Recorded next (step.resolve next).2 := by
  obtain ⟨repository, loader, coordinate, style, hconfigured⟩ :=
    Ktfmt.exists_configuration_of_stepOf hstep
  have hfresh : step.outcome = none := by rw [hconfigured, Ktfmt.Configuration.step]
  have hinitializer : step.initializer = Ktfmt.Configuration.makeEngine
      ⟨coordinate, style, repository.provisioner,
        loader.loaderBy (SearchPath.first "java")⟩ := by
    rw [hconfigured, Ktfmt.Configuration.step, Ktfmt.JavaLoader.loader]
  obtain ⟨cause, -, hmade⟩ := (Step.prepare_eq_error_iff hfresh).mp hprepare
  rw [hinitializer, Ktfmt.makeEngine_eq_error_iff] at hmade
  refine ⟨cause, fun next hnext => ?_⟩
  simp only [Step.resolve_of_fresh hfresh, hinitializer]
  exact ⟨Ktfmt.makeEngine_eq_error_iff.mpr (hmade.of_recorded hnext),
    Ktfmt.recorded_makeEngine _ repository loader coordinate style next⟩

theorem recorded_logErrors (errors : List Files.FileError) (machine : Machine) :
    Recorded machine (logErrors errors machine).2 := by
  induction errors generalizing machine with
  | nil => exact .refl machine
  | cons error rest induction => exact (recorded_record machine _).trans (induction _)

theorem recorded_conclude (mode : Files.Mode) (reports : List Files.Report) (machine : Machine) :
    Recorded machine (conclude mode reports machine).2 := by
  have hlogged := recorded_logErrors (errorsOf reports) machine
  cases mode with
  | check => exact hlogged
  | write => exact hlogged.trans (recorded_record _ _)

theorem conclude_of_errors (hreports : reports ≠ [])
    (herrors : ∀ report ∈ reports, ∃ error, report.outcome = .error error) (mode : Files.Mode)
    (machine : Machine) : (conclude mode reports machine).1 = ⟨"", false⟩ := by
  have hfailed : (errorsOf reports).isEmpty = false := by
    rw [List.isEmpty_eq_false_iff, Ne, errorsOf_eq_nil_iff]
    intro hsucceeded
    obtain ⟨report, hmem⟩ := List.exists_mem_of_ne_nil reports hreports
    obtain ⟨outcome, hok⟩ := hsucceeded report hmem
    obtain ⟨error, herror⟩ := herrors report hmem
    cases hok.symm.trans herror
  have hunchanged : changedPaths reports = [] := by
    rw [changedPaths_eq_nil_iff]
    intro report hmem
    obtain ⟨error, herror⟩ := herrors report hmem
    rw [isChanged, herror]
  cases mode with
  | check =>
      have hresult : (conclude .check reports machine).1 =
        ⟨linesOf (changedPaths reports),
          (errorsOf reports).isEmpty && (changedPaths reports).isEmpty⟩ := rfl
      rw [hresult, hfailed, hunchanged]
      rfl
  | write =>
      have hresult : (conclude .write reports machine).1 = ⟨"", (errorsOf reports).isEmpty⟩ := rfl
      rw [hresult, hfailed]

theorem spoiledOutcome_eq_error (machine : Machine) (cause : StepError) (path : Path) :
    ∃ error, Files.spoiledOutcome machine cause path = .error error := by
  unfold Files.spoiledOutcome
  cases machine.readText path with
  | error error => exact ⟨_, rfl⟩
  | ok content => exact ⟨_, rfl⟩

/-- Whatever the order in which the tasks of such a run act, it has only written records at any
moment, and its reports lead to a failure without output. -/
theorem recorded_formatTogether
    (hfails : ∀ next, Recorded machine next →
      (step.resolve next).1.1 = .error cause ∧ Recorded next (step.resolve next).2)
    {paths : List Path} {schedule : List Nat} {batch : Files.Batch Machine}
    (hrun : formatTogether mode paths step schedule machine = (batch, next)) :
    Recorded machine next ∧ ∀ reports, batch.reports? = some reports → paths ≠ [] →
      (conclude mode reports next).1 = ⟨"", false⟩ := by
  have hbegun : Recorded machine (begun mode paths step machine) := recorded_record machine _
  obtain ⟨hfailed, hrecorded⟩ := hfails _ hbegun
  have hquiet : Files.Quiet (begun mode paths step machine)
      (step.resolve (begun mode paths step machine)).2 :=
    ⟨hrecorded.files_eq, hrecorded.directory_eq⟩
  obtain ⟨hbarely, hspoiled⟩ := Files.spoiled_run hfailed hquiet hrun
  refine ⟨?_, fun reports hreports hpaths => ?_⟩
  · rcases hbarely with rfl | rfl
    · exact hbegun
    · exact hbegun.trans hrecorded
  · obtain rfl := hspoiled reports hreports
    refine conclude_of_errors (by simpa using hpaths) (fun report hmem => ?_) mode next
    obtain ⟨path, -, rfl⟩ := List.mem_map.mp hmem
    exact spoiledOutcome_eq_error machine cause path

/-! What a run that fails comes to. -/

theorem run_of_perform {arguments : Arguments}
    (hparse : Arguments.parse call.arguments = .ok arguments)
    (hperform : perform call arguments machine = (result, next)) :
    (run call machine).1.code = (endingOf "" result).code ∧
      (run call machine).1.output = (endingOf "" result).output ∧
      (run call machine).2 = next := by
  rcases hfilter : Log.Filter.parse (filterText call.environment) with ⟨invalid, filter⟩
  simp only [run, hfilter, hparse, runParsed, bind, StateT.bind, hperform]
  cases result <;> exact ⟨rfl, rfl, rfl⟩

theorem endingOf_of_fruitless (hfruitless : Fruitless result) (records : String) :
    (endingOf records result).code = failureCode ∧ (endingOf records result).output = "" := by
  cases result with
  | error failure => exact ⟨rfl, rfl⟩
  | ok written =>
      obtain rfl := hfruitless written rfl
      exact ⟨rfl, rfl⟩

theorem perform_of_unconfigured {error : ConfigError}
    (hconfig : configOf machine ⟨source, .ktfmt given⟩ = .error error) :
    perform call ⟨source, .ktfmt given⟩ machine = (.error (.config error), machine) := by
  simp only [perform, bind, StateT.bind, get, getThe, MonadStateOf.get, StateT.get, pure, hconfig]
  rfl

theorem perform_of_configured
    (hconfig : configOf machine ⟨source, .ktfmt given⟩ = .ok config) :
    perform call ⟨source, .ktfmt given⟩ machine =
      ktfmt call.environment given config.ktfmt call.input (configured config machine) := by
  simp only [perform, bind, StateT.bind, get, getThe, MonadStateOf.get, StateT.get, pure, hconfig]
  rfl

theorem perform_of_unbuilt {failure : Failure}
    (hconfig : configOf machine ⟨source, .ktfmt given⟩ = .ok config)
    (hstep : stepOf call.environment machine.home (given.onto config.ktfmt) = .error failure) :
    perform call ⟨source, .ktfmt given⟩ machine = (.error failure, configured config machine) := by
  have hlater : stepOf call.environment (configured config machine).home
      (given.onto config.ktfmt) = .error failure := hstep
  rw [perform_of_configured hconfig]
  simp only [ktfmt, bind, StateT.bind, get, getThe, MonadStateOf.get, StateT.get, pure, hlater]
  rfl

theorem perform_of_input (hconfig : configOf machine ⟨source, .ktfmt given⟩ = .ok config)
    (hstep : stepOf call.environment machine.home (given.onto config.ktfmt) = .ok step)
    (hfiles : given.files = []) :
    perform call ⟨source, .ktfmt given⟩ machine =
      formatInput step given.mode call.input (configured config machine) := by
  have hlater : stepOf call.environment (configured config machine).home
      (given.onto config.ktfmt) = .ok step := hstep
  rw [perform_of_configured hconfig]
  simp only [ktfmt, bind, StateT.bind, get, getThe, MonadStateOf.get, StateT.get, pure, hlater,
    hfiles, List.isEmpty_nil, if_true]

theorem formatInput_of_unread {input : ByteArray} (hinput : String.fromUTF8? input = none)
    (step : Step Machine) (mode : Files.Mode) (machine : Machine) :
    formatInput step mode input machine = (.error (.input .invalidText), machine) := by
  simp only [formatInput, hinput]
  rfl

theorem formatInput_of_uninitialized (hfails : (step.resolve machine).1.1 = .error cause)
    (mode : Files.Mode) {input : ByteArray} {text : String}
    (hinput : String.fromUTF8? input = some text) :
    formatInput step mode input machine =
      (.error (.format (.initialization cause)), (step.resolve machine).2) := by
  rcases hresolve : step.resolve machine with ⟨⟨outcome, made⟩, next⟩
  rw [hresolve] at hfails
  obtain rfl : outcome = .error cause := hfails
  simp only [formatInput, hinput, Step.format, bind, StateT.bind, hresolve]
  rfl

theorem recorded_configured (config : Config) (machine : Machine) :
    Recorded machine (configured config machine) :=
  recorded_record machine _

theorem fruitless_error (failure : Failure) : Fruitless (.error failure) := by
  intro written hwritten
  cases hwritten

theorem formatInput_of_fails (hfails : (step.resolve machine).1.1 = .error cause)
    (hrecorded : Recorded machine (step.resolve machine).2) (mode : Files.Mode)
    (input : ByteArray) :
    ∃ result next, formatInput step mode input machine = (result, next) ∧ Fruitless result ∧
      Recorded machine next := by
  cases hinput : String.fromUTF8? input with
  | none =>
      exact ⟨_, _, formatInput_of_unread hinput step mode machine, fruitless_error _,
        .refl machine⟩
  | some text =>
      exact ⟨_, _, formatInput_of_uninitialized hfails mode hinput, fruitless_error _, hrecorded⟩

theorem perform_of_fails (hfails : Fails call source given machine) :
    ∃ result next, perform call ⟨source, .ktfmt given⟩ machine = (result, next) ∧
      Fruitless result ∧ Recorded machine next := by
  cases hfails with
  | unconfigured hconfig =>
      exact ⟨_, _, perform_of_unconfigured hconfig, fruitless_error _, .refl machine⟩
  | @unbuilt config failure hconfig hstep =>
      exact ⟨_, _, perform_of_unbuilt hconfig hstep, fruitless_error _,
        recorded_configured config machine⟩
  | @unread config step hconfig hstep hfiles hinput =>
      refine ⟨_, _, (perform_of_input hconfig hstep hfiles).trans
        (formatInput_of_unread hinput step given.mode _), fruitless_error _, ?_⟩
      exact recorded_configured config machine
  | @uninitialized config step error hconfig hstep hprepare =>
      obtain ⟨cause, hfailed⟩ := resolve_of_prepare hstep hprepare
      have hconfigured := recorded_configured config machine
      by_cases hfiles : given.files = []
      · obtain ⟨hresolve, hrecorded⟩ := hfailed _ hconfigured
        obtain ⟨result, next, hformat, hfruitless, hnext⟩ :=
          formatInput_of_fails hresolve hrecorded given.mode call.input
        exact ⟨result, next, (perform_of_input hconfig hstep hfiles).trans hformat, hfruitless,
          hconfigured.trans hnext⟩
      · rcases hformat : Files.formatFiles given.mode given.files step (configured config machine)
          with ⟨⟨reports, made⟩, next⟩
        have hperform := perform_files hconfig hstep hfiles
        rw [hformat] at hperform
        obtain ⟨batch, hrun, hreports, -⟩ := Files.formatFiles_of_formatTogether hformat
        obtain ⟨hrecorded, hconcluded⟩ := recorded_formatTogether
          (fun next hnext => hfailed next (hconfigured.trans hnext)) hrun
        refine ⟨_, _, hperform, ?_, ?_⟩
        · rintro written ⟨⟩
          exact hconcluded reports hreports hfiles
        · exact hconfigured.trans (hrecorded.trans (recorded_conclude _ _ _))

/-- A formatting run that fails before it could format anything, or whose step cannot be
initialized, changes no file, starts no program, writes nothing to its output and ends with a
failure, whatever the order in which the tasks of its files act. -/
theorem failing_run (hparse : Arguments.parse call.arguments = .ok ⟨source, .ktfmt given⟩)
    (hfails : Fails call source given machine) :
    (run call machine).1.code = failureCode ∧ (run call machine).1.output = "" ∧
      (run call machine).2.files = machine.files ∧
      (run call machine).2.launches = machine.launches ∧
      ∀ config step, configOf machine ⟨source, .ktfmt given⟩ = .ok config →
        stepOf call.environment machine.home (given.onto config.ktfmt) = .ok step →
        given.files ≠ [] →
        (∀ order, Fair given.files.length order → ∃ count reports,
          (formatTogether given.mode given.files step (turns order 0 count)
            (configured config machine)).1.reports? = some reports) ∧
        ∀ schedule batch next,
          formatTogether given.mode given.files step schedule (configured config machine) =
            (batch, next) →
          next.files = machine.files ∧ next.launches = machine.launches ∧
          ∀ reports, batch.reports? = some reports →
            (conclude given.mode reports next).1 = ⟨"", false⟩ ∧
            (conclude given.mode reports next).2.files = machine.files ∧
            (conclude given.mode reports next).2.launches = machine.launches := by
  obtain ⟨result, last, hperform, hfruitless, hrecorded⟩ := perform_of_fails hfails
  obtain ⟨hcode, houtput, hlast⟩ := run_of_perform hparse hperform
  obtain ⟨hfailure, hsilent⟩ := endingOf_of_fruitless hfruitless ""
  rw [hcode, houtput, hlast, hfailure, hsilent]
  refine ⟨rfl, rfl, hrecorded.files_eq, hrecorded.launches_eq, ?_⟩
  intro config step hconfig hstep hfiles
  refine ⟨fun order hfair => Files.exists_reports_formatTogether hfair _ step _, ?_⟩
  intro schedule batch next hrun
  have hconfigured := recorded_configured config machine
  cases hfails with
  | unconfigured hunconfigured => cases hconfig.symm.trans hunconfigured
  | unbuilt hsame hunbuilt =>
      cases hconfig.symm.trans hsame
      cases hstep.symm.trans hunbuilt
  | unread hsame hbuilt hnone hinput => exact absurd hnone hfiles
  | uninitialized hsame hbuilt hprepare =>
      cases hconfig.symm.trans hsame
      cases hstep.symm.trans hbuilt
      obtain ⟨cause, hfailed⟩ := resolve_of_prepare hstep hprepare
      obtain ⟨hreached, hconcluded⟩ := recorded_formatTogether
        (fun next hnext => hfailed next (hconfigured.trans hnext)) hrun
      have hnext := hconfigured.trans hreached
      refine ⟨hnext.files_eq, hnext.launches_eq, fun reports hreports =>
        ⟨hconcluded reports hreports hfiles, ?_⟩⟩
      have hended := hnext.trans (recorded_conclude given.mode reports next)
      exact ⟨hended.files_eq, hended.launches_eq⟩

/-- There is no jar where one is asked for. -/
theorem failing_run_of_absent :
    (run (formatting []) (Files.oneFile "x" none)).1.code = failureCode ∧
      (run (formatting []) (Files.oneFile "x" none)).1.output = "" ∧
      (run (formatting []) (Files.oneFile "x" none)).2.files =
        (Files.oneFile "x" none).files := by
  have hparse : Arguments.parse (formatting []).arguments =
      .ok ⟨none, .ktfmt { located with files := [⟨"/a.kt"⟩] }⟩ := rfl
  have hconfig : configOf (Files.oneFile "x" none)
      ⟨none, .ktfmt { located with files := [⟨"/a.kt"⟩] }⟩ = .ok {} := rfl
  obtain ⟨step, hstep⟩ : ∃ step, stepOf .empty none (located.onto {}) = .ok step := ⟨_, rfl⟩
  have hprepare : ∃ error, (step.prepare (Files.oneFile "x" none)).1.1 = .error error := by
    obtain rfl := Except.ok.inj hstep
    exact ⟨_, rfl⟩
  obtain ⟨error, hfailed⟩ := hprepare
  obtain ⟨hcode, houtput, hfiles, -⟩ := failing_run hparse (.uninitialized hconfig hstep hfailed)
  exact ⟨hcode, houtput, hfiles⟩

end CodeFormatting.Command
