import CodeFormatting.Proofs.Command.Report
namespace CodeFormatting.Command

/-! Formatting the input agrees with formatting a file that holds it. -/

open Files (Steady begun formatFile formatFiles)

variable {environment : Environment} {machine next : Machine} {call : Call}
  {given : KtfmtArguments} {source : Option Path} {config : Config} {step after : Step Machine}
  {mode : Files.Mode} {path : Path} {paths : List Path} {text formatted : String}
  {steady : Steady step paths} {engine : Engine Machine} {cause : EngineError}

structure Asks (call : Call) (environment : Environment) (source : Option Path)
    (given : KtfmtArguments) : Prop where
  environment : call.environment = environment
  parse : Arguments.parse call.arguments = .ok ⟨source, .ktfmt given⟩

/-- A run that prints nothing and fails with what an engine says. -/
structure FailsWith (ending : Ending) (cause : EngineError) : Prop where
  code : ending.code = failureCode
  output : ending.output = ""
  errors : ∃ noted, ending.errors =
    noted ++ ("Error: " ++ cause.message ++ Failure.causesText cause.causes ++ "\n")

/-- A run over a file that fails with what an engine says of it, and leaves all files as they
were. -/
structure ReportsFailure (machine : Machine) (path : Path) (cause : EngineError) (ending : Ending)
    (after : Machine) : Prop where
  code : ending.code = failureCode
  output : ending.output = ""
  errors : errorsIn after =
    errorsIn machine ++ [errorRecord (.format path (.delegate cause))]
  files : after.files = machine.files

/-! What a step answers is what its engine does. -/

theorem answer_eq (hmoment : steady.Moment machine) (hinitialized : steady.outcome = .ok engine)
    (input : String) : steady.answer input = (engine input machine).1.mapError .delegate := by
  obtain ⟨next, happlied, -⟩ := steady.applied input machine hmoment
  rw [hinitialized] at happlied
  apply (congrArg Prod.fst happlied).symm.trans
  simp only [Step.applied, bind, StateT.bind]
  rcases engine input machine with ⟨error | text, later⟩
  · rfl
  · rfl

/-! Runs without files. -/

theorem formatInput_of_format {answer : Except FormatError String}
    (hformat : step.format text machine = ((answer, after), next)) (mode : Files.Mode) :
    formatInput step mode text.toUTF8 machine =
      ((answer.mapError Failure.format).map (inputResult mode text), next) := by
  have hread : String.fromUTF8? text.toUTF8 = some text :=
    FileSystem.fromUTF8?_eq_some_iff.mpr rfl
  simp only [formatInput, hread, bind, StateT.bind, hformat]
  cases answer <;> rfl

theorem errors_of_perform {arguments : Arguments} {failure : Failure}
    (hparse : Arguments.parse call.arguments = .ok arguments)
    (hperform : perform call arguments machine = (.error failure, next)) :
    ∃ noted, (run call machine).1.errors = noted ++ failure.report := by
  rcases hfilter : Log.Filter.parse (filterText call.environment) with ⟨invalid, filter⟩
  simp only [run, hfilter, hparse, runParsed, bind, StateT.bind, hperform]
  exact ⟨_, (String.append_assoc ..).symm⟩

/-! A run over one file. -/

theorem formatFiles_singleton (hmoment : steady.Moment machine)
    (hread : machine.readText path = .ok text) (mode : Files.Mode) :
    ∃ reports made next, formatFiles mode [path] step machine = ((reports, made), next) ∧
      (∀ error, steady.answer text = .error error →
        reports = [⟨path, .error (.format path error)⟩] ∧ next.files = machine.files) ∧
      ∀ formatted, mode = .check → steady.answer text = .ok formatted →
        reports = [⟨path, .ok (if formatted = text then .unchanged else .wouldFormat)⟩] := by
  have hstart : steady.Moment (begun mode [path] step machine) := steady.record _ _ hmoment
  have hread : (begun mode [path] step machine).readText path = .ok text := hread
  obtain ⟨made, next, hformat, hquiet, -⟩ := steady.format hstart text
  cases hanswer : steady.answer text with
  | error error =>
      rw [hanswer] at hformat
      refine ⟨_, made, next,
        Files.formatFiles_of_formatFile (Files.formatFile_of_rejected hread hformat mode),
        ?_, nofun⟩
      intro other hother
      obtain rfl := Except.error.inj hother
      exact ⟨rfl, hquiet.files⟩
  | ok formatted =>
      rw [hanswer] at hformat
      rcases hsettle : Files.settle mode path text formatted next with ⟨outcome, last⟩
      have hformatted := Files.formatFile_of_formatted hread hformat mode
      rw [hsettle] at hformatted
      refine ⟨_, made, last, Files.formatFiles_of_formatFile hformatted, nofun, ?_⟩
      intro other hmode hother
      obtain rfl := Except.ok.inj hother
      subst hmode
      split
      · next hsame =>
          subst hsame
          rw [Files.settle_of_equal] at hsettle
          obtain ⟨rfl, -⟩ := Prod.mk.inj hsettle
          rfl
      · next hchanged =>
          rw [Files.settle_of_check hchanged] at hsettle
          obtain ⟨rfl, -⟩ := Prod.mk.inj hsettle
          rfl

section Runs

variable (hasks : Asks call environment source given) (hmoment : steady.Moment machine)
  (hinitialized : steady.outcome = .ok engine)
  (hconfig : configOf machine ⟨source, .ktfmt given⟩ = .ok config)
  (hstep : stepOf environment machine.home (given.onto config.ktfmt) = .ok step)

include hmoment hinitialized

theorem formatFiles_of_engine (hfiles : given.files = [path])
    (hread : machine.readText path = .ok text) :
    ∃ reports made next,
      formatFiles given.mode given.files step (configured config machine) =
        ((reports, made), next) ∧
      (∀ cause, (engine text machine).1 = .error cause →
        reports = [⟨path, .error (.format path (.delegate cause))⟩] ∧
          next.files = machine.files) ∧
      ∀ formatted, given.mode = .check → (engine text machine).1 = .ok formatted →
        reports = [⟨path, .ok (if formatted = text then .unchanged else .wouldFormat)⟩] := by
  have hstart : steady.Moment (configured config machine) := steady.record _ _ hmoment
  obtain ⟨reports, made, next, hformat, hrejected, hformatted⟩ :=
    formatFiles_singleton hstart hread given.mode
  rw [answer_eq hmoment hinitialized] at hrejected hformatted
  rw [hfiles]
  refine ⟨reports, made, next, hformat, ?_, ?_⟩
  · intro cause hengine
    exact hrejected _ (congrArg _ hengine)
  · intro formatted hmode hengine
    exact hformatted formatted hmode (congrArg _ hengine)

include hasks hconfig hstep

theorem perform_of_engine (hfiles : given.files = []) (hinput : call.input = text.toUTF8) :
    ∃ next, perform call ⟨source, .ktfmt given⟩ machine =
      ((((engine text machine).1.mapError .delegate).mapError Failure.format).map
        (inputResult given.mode text), next) := by
  have hstart : steady.Moment (configured config machine) := steady.record _ _ hmoment
  obtain ⟨made, next, hformat, -⟩ := steady.format hstart text
  rw [answer_eq hmoment hinitialized] at hformat
  have hstep : stepOf call.environment machine.home (given.onto config.ktfmt) = .ok step :=
    hasks.environment ▸ hstep
  rw [perform_of_input hconfig hstep hfiles, hinput, formatInput_of_format hformat]
  exact ⟨next, rfl⟩

theorem run_of_formatted (hfiles : given.files = []) (hinput : call.input = text.toUTF8)
    (hengine : (engine text machine).1 = .ok formatted) :
    (run call machine).1.output = (inputResult given.mode text formatted).output ∧
      (run call machine).1.code =
        if (inputResult given.mode text formatted).success then successCode else failureCode := by
  obtain ⟨next, hperform⟩ :=
    perform_of_engine hasks hmoment hinitialized hconfig hstep hfiles hinput
  rw [hengine] at hperform
  obtain ⟨hcode, houtput, -⟩ := run_of_perform hasks.parse hperform
  exact ⟨houtput, hcode⟩

theorem failsWith_of_rejected (hfiles : given.files = []) (hinput : call.input = text.toUTF8)
    (hengine : (engine text machine).1 = .error cause) : FailsWith (run call machine).1 cause := by
  obtain ⟨next, hperform⟩ :=
    perform_of_engine hasks hmoment hinitialized hconfig hstep hfiles hinput
  rw [hengine, Except.mapError, Except.mapError, Except.map] at hperform
  obtain ⟨hcode, houtput, -⟩ := run_of_perform hasks.parse hperform
  obtain ⟨noted, herrors⟩ := errors_of_perform hasks.parse hperform
  exact ⟨hcode, houtput, noted, herrors⟩

theorem success_iff_of_input (hmode : given.mode = .check) (hfiles : given.files = [])
    (hinput : call.input = text.toUTF8) :
    (run call machine).1.code = successCode ↔ (engine text machine).1 = .ok text := by
  cases hengine : (engine text machine).1 with
  | error cause =>
      have hfails :=
        failsWith_of_rejected hasks hmoment hinitialized hconfig hstep hfiles hinput hengine
      rw [hfails.code]
      simp [successCode, failureCode]
  | ok formatted =>
      obtain ⟨-, hcode⟩ :=
        run_of_formatted hasks hmoment hinitialized hconfig hstep hfiles hinput hengine
      rw [hcode, hmode, inputResult, Except.ok.injEq]
      by_cases hsame : formatted = text
      · simp [hsame]
      · simp [hsame, successCode, failureCode]

theorem success_iff_of_file (hmode : given.mode = .check) (hfiles : given.files = [path])
    (hread : machine.readText path = .ok text) :
    (run call machine).1.code = successCode ↔ (engine text machine).1 = .ok text := by
  have hstep : stepOf call.environment machine.home (given.onto config.ktfmt) = .ok step :=
    hasks.environment ▸ hstep
  have hnonempty : given.files ≠ [] := by simp [hfiles]
  obtain ⟨reports, made, next, hformat, hrejected, hformatted⟩ :=
    formatFiles_of_engine hmoment hinitialized hfiles hread
  refine (run_files hasks.parse hconfig hstep hnonempty hformat).1.trans ?_
  rw [hmode, success_check_iff]
  cases hengine : (engine text machine).1 with
  | error cause =>
      obtain ⟨rfl, -⟩ := hrejected cause hengine
      simp
  | ok formatted =>
      obtain rfl := hformatted formatted hmode hengine
      by_cases hsame : formatted = text <;> simp [hsame]

theorem reportsFailure_of_rejected (hfiles : given.files = [path])
    (hread : machine.readText path = .ok text) (hengine : (engine text machine).1 = .error cause) :
    ReportsFailure machine path cause (run call machine).1 (run call machine).2 := by
  have hstep : stepOf call.environment machine.home (given.onto config.ktfmt) = .ok step :=
    hasks.environment ▸ hstep
  have hnonempty : given.files ≠ [] := by simp [hfiles]
  obtain ⟨reports, made, next, hformat, hrejected, -⟩ :=
    formatFiles_of_engine hmoment hinitialized hfiles hread
  obtain ⟨rfl, hkept⟩ := hrejected cause hengine
  have hperform := perform_files hconfig hstep hnonempty
  rw [hformat] at hperform
  obtain ⟨hcode, houtput, -⟩ := run_of_perform hasks.parse hperform
  rw [conclude_of_errors (List.cons_ne_nil _ _) (by simp)] at hcode houtput
  obtain ⟨result, -, -, hreported⟩ := reported_run hasks.parse hconfig hstep hnonempty hformat
  refine ⟨hcode, houtput, hreported.errors, ?_⟩
  exact (run_files hasks.parse hconfig hstep hnonempty hformat).2.trans hkept

end Runs

/-- A run without files prints what the engine makes of the input, and a check of the input says
whether that differs from it, just as a check of a file with the same text does. If the engine
rejects the text then both fail with what it says, and so do runs over the file, which keeps its
text. -/
theorem input_run (hmoment : steady.Moment machine) (hinitialized : steady.outcome = .ok engine)
    (hconfig : configOf machine ⟨source, .ktfmt given⟩ = .ok config)
    (hstep : stepOf environment machine.home (given.onto config.ktfmt) = .ok step)
    {printing checking : Call}
    (hprinting : Asks printing environment source { given with check := false, files := [] })
    (hchecking : Asks checking environment source { given with check := true, files := [] })
    (hprinted : printing.input = text.toUTF8) (hchecked : checking.input = text.toUTF8) :
    (∀ formatted, (engine text machine).1 = .ok formatted →
      (run printing machine).1.code = successCode ∧
      (run printing machine).1.output = formatted ∧
      (run checking machine).1.code = (if formatted = text then successCode else failureCode) ∧
      (run checking machine).1.output = (if formatted = text then "" else "<stdin>\n")) ∧
    (∀ cause, (engine text machine).1 = .error cause →
      FailsWith (run printing machine).1 cause ∧ FailsWith (run checking machine).1 cause) ∧
    ∀ path, machine.readText path = .ok text → ∀ writing inspecting,
      Asks writing environment source { given with check := false, files := [path] } →
      Asks inspecting environment source { given with check := true, files := [path] } →
      ((run checking machine).1.code = successCode ↔
        (run inspecting machine).1.code = successCode) ∧
      ∀ cause, (engine text machine).1 = .error cause →
        ReportsFailure machine path cause (run writing machine).1 (run writing machine).2 ∧
        ReportsFailure machine path cause (run inspecting machine).1
          (run inspecting machine).2 := by
  refine ⟨?_, ?_, ?_⟩
  · intro formatted hengine
    obtain ⟨hprint, hsuccess⟩ :=
      run_of_formatted hprinting hmoment hinitialized hconfig hstep rfl hprinted hengine
    obtain ⟨hlines, hcode⟩ :=
      run_of_formatted hchecking hmoment hinitialized hconfig hstep rfl hchecked hengine
    refine ⟨hsuccess, hprint, ?_⟩
    rw [hcode, hlines]
    by_cases hsame : formatted = text
    · simp [inputResult, KtfmtArguments.mode, hsame]
    · simp [inputResult, KtfmtArguments.mode, hsame]
  · intro cause hengine
    exact ⟨failsWith_of_rejected hprinting hmoment hinitialized hconfig hstep rfl hprinted hengine,
      failsWith_of_rejected hchecking hmoment hinitialized hconfig hstep rfl hchecked hengine⟩
  · intro path hread writing inspecting hwriting hinspecting
    constructor
    · rw [success_iff_of_input hchecking hmoment hinitialized hconfig hstep rfl rfl hchecked,
        success_iff_of_file hinspecting hmoment hinitialized hconfig hstep rfl rfl hread]
    · intro cause hengine
      exact ⟨reportsFailure_of_rejected hwriting hmoment hinitialized hconfig hstep rfl hread
          hengine,
        reportsFailure_of_rejected hinspecting hmoment hinitialized hconfig hstep rfl hread
          hengine⟩

def piping (options : List String) : Call :=
  ⟨.empty, ["ktfmt", "--java", "/java", "--repository", "/repository"] ++ options, "x".toUTF8⟩

theorem input_run_of_installed :
    (run (piping []) (installed "y")).1.output = "y" ∧
      ((run (piping ["--check"]) (installed "y")).1.code = successCode ↔
        (run (formatting ["--check"]) (installed "y")).1.code = successCode) := by
  have hprinting : Asks (piping []) .empty none { located with check := false, files := [] } :=
    ⟨rfl, rfl⟩
  have hchecking : Asks (piping ["--check"]) .empty none
      { located with check := true, files := [] } := ⟨rfl, rfl⟩
  have hwriting : Asks (formatting []) .empty none
      { located with check := false, files := [⟨"/a.kt"⟩] } := ⟨rfl, rfl⟩
  have hinspecting : Asks (formatting ["--check"]) .empty none
      { located with check := true, files := [⟨"/a.kt"⟩] } := ⟨rfl, rfl⟩
  have hconfig : configOf (installed "y") ⟨none, .ktfmt located⟩ = .ok {} := rfl
  obtain ⟨step, engine, next, hstep, hfresh, hinitializer, hengine⟩ : ∃ step engine next,
      stepOf .empty none (located.onto {}) = .ok step ∧ step.outcome = none ∧
      step.initializer (installed "y") = (.ok engine, next) ∧
      (engine "x" (installed "y")).1 = .ok "y" := ⟨_, _, _, rfl, rfl, rfl, rfl⟩
  have hinput (options : List String) : (piping options).input = "x".toUTF8 := rfl
  have hsame : Undisturbed (installed "y")
      (fun _ => .ok ⟨.ok (), .exited 0, "y".toUTF8, .empty⟩) (installed "y") :=
    ⟨rfl, rfl, .refl _, fun _ _ _ => rfl⟩
  obtain ⟨steady, hmoment⟩ := exists_steady_of_stepOf hsame hstep [⟨"/a.kt"⟩]
  have hinitialized : steady.outcome = .ok engine := by
    obtain ⟨later, hsteady, -⟩ := steady.initializer hfresh _ hmoment
    rw [hinitializer] at hsteady
    exact (congrArg Prod.fst hsteady).symm
  obtain ⟨hformatted, -, hfile⟩ :=
    input_run hmoment hinitialized hconfig hstep hprinting hchecking (hinput _) (hinput _)
  obtain ⟨-, hprint, -⟩ := hformatted "y" hengine
  exact ⟨hprint, (hfile ⟨"/a.kt"⟩ rfl (formatting []) (formatting ["--check"]) hwriting
    hinspecting).1⟩

end CodeFormatting.Command
