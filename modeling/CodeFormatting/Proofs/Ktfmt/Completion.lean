import CodeFormatting.Proofs.Files.Single
import CodeFormatting.Proofs.Ktfmt.CommandLine
namespace CodeFormatting.Ktfmt

/-! What is made of a program that has ended: of its status, of whether it took all of its input,
and of the octets that it put out. -/

inductive Judged (completion : Completion) : Except JavaError String → Prop
  | accepted {text : String} (hstatus : completion.status = .exited 0)
      (hwritten : completion.written = .ok ()) (houtput : completion.output = text.toUTF8) :
      Judged completion (.ok text)
  | failed {code : Int} (hstatus : completion.status = .exited code) (hcode : code ≠ 0) :
      Judged completion
        (.error (.exited (some code) (Text.trim (Text.lossy completion.errors))))
  | signalled (hstatus : completion.status = .signalled) :
      Judged completion (.error (.exited none (Text.trim (Text.lossy completion.errors))))
  | untaken {error : IoError} (hstatus : completion.status = .exited 0)
      (hwritten : completion.written = .error error) : Judged completion (.error (.io error))
  | garbled (hstatus : completion.status = .exited 0) (hwritten : completion.written = .ok ())
      (hnone : ∀ text : String, completion.output ≠ text.toUTF8) :
      Judged completion (.error (.outputNotText (Text.flawText completion.output)))

/-- How a program answers that is to be started, and what it leaves. -/
inductive Called (machine : Machine) (launch : Launch) : Except JavaError String → Machine → Prop
  | unstarted {next : Machine} {error : IoError} (hdirectory : next.directory = machine.directory)
      (hexecute : machine.execute machine.files machine.directory launch =
        (next.files, .error error)) :
      Called machine launch (.error (.startFailed launch.program error)) next
  | ended {next : Machine} {completion : Completion} {result : Except JavaError String}
      (hdirectory : next.directory = machine.directory)
      (hexecute : machine.execute machine.files machine.directory launch =
        (next.files, .ok completion)) (hjudged : Judged completion result) :
      Called machine launch result next

/-- The program is started and ends like this. -/
def Ends (machine : Machine) (launch : Launch) (completion : Completion) : Prop :=
  (machine.execute machine.files machine.directory launch).2 = .ok completion

/-- A program that ended well was given all of the content and has put out the text. -/
def Delivers (machine : Machine) (content text : String) : Prop :=
  ∃ launch files completion, launch.input = content ∧
    machine.execute machine.files machine.directory launch = (files, .ok completion) ∧
    completion.status = .exited 0 ∧ completion.written = .ok () ∧
    completion.output = text.toUTF8

variable {completion : Completion} {result : Except JavaError String} {machine next : Machine}
  {launch : Launch} {files : FileSystem} {text : String}

theorem judged_answer (completion : Completion) :
    Judged completion (JavaProgram.answer completion) := by
  unfold JavaProgram.answer
  cases hstatus : completion.status with
  | signalled => exact .signalled hstatus
  | exited code =>
      by_cases hcode : code = 0
      · subst hcode
        rw [if_neg (not_not.mpr rfl)]
        cases hwritten : completion.written with
        | error error => exact .untaken hstatus hwritten
        | ok taken =>
            cases houtput : String.fromUTF8? completion.output with
            | some text =>
                exact .accepted hstatus hwritten
                  (FileSystem.fromUTF8?_eq_some_iff.mp houtput).symm
            | none =>
                apply Judged.garbled hstatus hwritten
                intro text hsame
                rw [FileSystem.fromUTF8?_eq_some_iff.mpr hsame.symm] at houtput
                contradiction
      · have hfailed : ExitStatus.exited code ≠ .exited 0 := by
          intro hsame
          exact hcode (ExitStatus.exited.inj hsame)
        rw [if_pos hfailed]
        exact .failed hstatus hcode

theorem Judged.eq_answer (hjudged : Judged completion result) :
    result = JavaProgram.answer completion := by
  cases hjudged with
  | accepted hstatus hwritten houtput =>
      simp [JavaProgram.answer, hstatus, hwritten,
        FileSystem.fromUTF8?_eq_some_iff.mpr houtput.symm]
  | failed hstatus hcode => simp [JavaProgram.answer, hstatus, hcode, JavaProgram.exitCode?]
  | signalled hstatus => simp [JavaProgram.answer, hstatus, JavaProgram.exitCode?]
  | untaken hstatus hwritten => simp [JavaProgram.answer, hstatus, hwritten]
  | garbled hstatus hwritten hnone =>
      have hflawed : String.fromUTF8? completion.output = none := by
        rw [Option.eq_none_iff_forall_ne_some]
        intro text hsome
        exact hnone text (FileSystem.fromUTF8?_eq_some_iff.mp hsome).symm
      simp [JavaProgram.answer, hstatus, hwritten, hflawed]

theorem judged_iff : Judged completion result ↔ result = JavaProgram.answer completion := by
  constructor
  · exact Judged.eq_answer
  · intro hanswer
    rw [hanswer]
    exact judged_answer completion

theorem Called.delivers (hcalled : Called machine launch (.ok text) next) :
    Delivers machine launch.input text := by
  cases hcalled with
  | ended hdirectory hexecute hjudged =>
      cases hjudged with
      | accepted hstatus hwritten houtput =>
          exact ⟨launch, next.files, _, rfl, hexecute, hstatus, hwritten, houtput⟩

theorem Called.judged (hcalled : Called machine launch result next)
    (hends : Ends machine launch completion) : Judged completion result := by
  unfold Ends at hends
  cases hcalled with
  | unstarted hdirectory hexecute =>
      rw [hexecute] at hends
      contradiction
  | ended hdirectory hexecute hjudged =>
      rw [hexecute] at hends
      rwa [← Except.ok.inj hends]

theorem Called.files_eq (hcalled : Called machine launch result next) :
    next.files = (machine.execute machine.files machine.directory launch).1 := by
  cases hcalled with
  | unstarted hdirectory hexecute => rw [hexecute]
  | ended hdirectory hexecute hjudged => rw [hexecute]

theorem Called.location_eq (hcalled : Called machine launch result next) :
    next.location = machine.location := by
  apply congrArg FileSystem.locationOf
  cases hcalled with
  | unstarted hdirectory => exact hdirectory
  | ended hdirectory => exact hdirectory

theorem Called.of_recorded {before : Machine} (hcalled : Called machine launch result next)
    (hrecorded : Recorded before machine) : Called before launch result next := by
  obtain ⟨records, rfl⟩ := hrecorded
  cases hcalled with
  | unstarted hdirectory hexecute => exact .unstarted hdirectory hexecute
  | ended hdirectory hexecute hjudged => exact .ended hdirectory hexecute hjudged

/-! A program answers with what is made of its end. -/

theorem start_of_error {error : IoError}
    (hexecute : machine.execute machine.files machine.directory launch = (files, .error error)) :
    start launch machine = (.error error, { machine with files }) := by
  simp only [start, hexecute]

theorem start_of_ok
    (hexecute : machine.execute machine.files machine.directory launch =
      (files, .ok completion)) :
    start launch machine =
      (.ok completion, Machine.record { machine with files } (.started launch)) := by
  simp only [start, hexecute]

theorem called_run (program : JavaProgram) (flag : Option String) (input : String)
    (machine : Machine) :
    Called machine ⟨program.java, program.arguments flag, input⟩
      (program.run flag input machine).1 (program.run flag input machine).2 := by
  have hrecorded := recorded_record machine ⟨.trace, javaTarget,
    JavaProgram.runningText ⟨program.java, program.arguments flag, input⟩⟩
  apply Called.of_recorded _ hrecorded
  simp only [JavaProgram.run, bind, StateT.bind, log, modify, modifyGet, MonadStateOf.modifyGet,
    StateT.modifyGet, pure]
  generalize machine.record _ = noted
  rcases hexecute : noted.execute noted.files noted.directory
    ⟨program.java, program.arguments flag, input⟩ with ⟨files, error | completion⟩
  · rw [start_of_error hexecute]
    exact .unstarted rfl hexecute
  · rw [start_of_ok hexecute]
    exact .ended rfl hexecute (judged_answer completion)

theorem run_eq_iff {program : JavaProgram} {flag : Option String} {input : String}
    (hends : Ends machine ⟨program.java, program.arguments flag, input⟩ completion) :
    (program.run flag input machine).1 = result ↔ Judged completion result := by
  have hjudged := (called_run program flag input machine).judged hends
  rw [judged_iff, judged_iff.mp hjudged, eq_comm]

theorem called_format (program : JavaProgram) (input : String) (machine : Machine) :
    ∃ result, Called machine ⟨program.java, program.arguments none, input⟩ result
        (program.format input machine).2 ∧
      (program.format input machine).1 = JavaProgram.asEngineError result :=
  ⟨_, called_run program none input machine, rfl⟩

theorem called_formatWithOptions (program : JavaProgram) (options : Options) (input : String)
    (machine : Machine) :
    ∃ result, Called machine ⟨program.java, program.arguments options.flag?, input⟩ result
        (program.formatWithOptions options input machine).2 ∧
      (program.formatWithOptions options input machine).1 = JavaProgram.asEngineError result := by
  unfold JavaProgram.formatWithOptions
  split
  · have hrecorded := recorded_record machine ⟨.warn, javaTarget,
      JavaProgram.cannotExpress options⟩
    exact ⟨_, (called_run program options.flag? input _).of_recorded hrecorded, rfl⟩
  · exact ⟨_, called_run program options.flag? input machine, rfl⟩

theorem format_eq {program : JavaProgram} {input : String}
    (hends : Ends machine ⟨program.java, program.arguments none, input⟩ completion)
    (hjudged : Judged completion result) :
    (program.format input machine).1 = JavaProgram.asEngineError result := by
  obtain ⟨answered, hcalled, hanswer⟩ := called_format program input machine
  rw [hanswer, judged_iff.mp hjudged, judged_iff.mp (hcalled.judged hends)]

theorem formatWithOptions_eq {program : JavaProgram} {options : Options} {input : String}
    (hends : Ends machine ⟨program.java, program.arguments options.flag?, input⟩ completion)
    (hjudged : Judged completion result) :
    (program.formatWithOptions options input machine).1 = JavaProgram.asEngineError result := by
  obtain ⟨answered, hcalled, hanswer⟩ := called_formatWithOptions program options input machine
  rw [hanswer, judged_iff.mp hjudged, judged_iff.mp (hcalled.judged hends)]

/-- An engine that puts a text through a program and answers with what is made of its end. -/
def Piped (engine : Engine Machine) : Prop :=
  ∀ input machine, ∃ launch result, launch.input = input ∧
    Called machine launch result (engine input machine).2 ∧
    (engine input machine).1 = JavaProgram.asEngineError result

theorem piped_engine (program : JavaProgram) (resolved : Option ResolvedOptions) :
    Piped (program.api.engine resolved) := by
  intro input machine
  cases resolved with
  | none =>
      obtain ⟨result, hcalled⟩ := called_format program input machine
      exact ⟨_, result, rfl, hcalled⟩
  | some resolved =>
      obtain ⟨result, hcalled⟩ :=
        called_formatWithOptions program resolved.options input machine
      exact ⟨_, result, rfl, hcalled⟩

/-- Initializing the step does nothing but write records, and all it can come to is an engine
that is piped. -/
structure Piping (step : Step Machine) : Prop where
  settled : ∀ engine, step.outcome = some (.ok engine) → Piped engine
  recorded : ∀ machine, Recorded machine (step.initializer machine).2
  initialized : ∀ machine engine, (step.initializer machine).1 = .ok engine → Piped engine

theorem piping_step (search : SearchPath.Search) (repository : Repository) (loader : JavaLoader)
    (coordinate : Coordinate) (style : Style) :
    Piping (Configuration.step
      ⟨coordinate, style, repository.provisioner, loader.loaderBy search⟩) where
  settled := nofun
  recorded machine := recorded_makeEngine search repository loader coordinate style machine
  initialized machine engine hengine := by
    have hquiet : Journals (Fitting none style []) (fun _ => True)
        (repository.provisioner coordinate) := fun _ => ⟨trivial, .of_eq rfl⟩
    have hjournals : Journals (Fitting none style [])
        (fun outcome => ∃ program?, Established
          ⟨coordinate, style, repository.provisioner, loader.loaderBy search⟩ loader program?
          outcome)
        (Configuration.makeEngine
          ⟨coordinate, style, repository.provisioner, loader.loaderBy search⟩) :=
      journals_makeEngine noting_fitting rfl hquiet
    obtain ⟨⟨program?, hestablished⟩, -⟩ := hjournals machine
    have hmade : (Configuration.makeEngine
      ⟨coordinate, style, repository.provisioner, loader.loaderBy search⟩ machine).1 =
        .ok engine := hengine
    rw [hmade] at hestablished
    cases hestablished with
    | loaded hruns hresolution => exact piped_engine _ _

variable {step : Step Machine} {outcome : Except StepError (Engine Machine)} {input : String}

theorem Piping.resolved (hpiping : Piping step)
    (houtcome : ∀ engine, outcome = .ok engine → Piped engine) :
    Piping (step.settled outcome) where
  settled engine hengine := houtcome engine (Option.some.inj hengine)
  recorded := hpiping.recorded
  initialized := hpiping.initialized

/-- How a step answers that puts its texts through a program. -/
inductive Replied (machine : Machine) (input : String) :
    Except FormatError String → Machine → Prop
  | uninitialized {cause : StepError} {next : Machine} (hrecorded : Recorded machine next) :
      Replied machine input (.error (.initialization cause)) next
  | rejected {launch : Launch} {error : JavaError} {next : Machine}
      (hinput : launch.input = input) (hcalled : Called machine launch (.error error) next) :
      Replied machine input (.error (.delegate (.java error))) next
  | formatted {launch : Launch} {text : String} {next : Machine}
      (hinput : launch.input = input) (hcalled : Called machine launch (.ok text) next) :
      Replied machine input (.ok text) next

theorem Replied.of_recorded {before : Machine} {answer : Except FormatError String}
    (hreplied : Replied machine input answer next) (hrecorded : Recorded before machine) :
    Replied before input answer next := by
  cases hreplied with
  | uninitialized hlater => exact .uninitialized (hrecorded.trans hlater)
  | rejected hinput hcalled => exact .rejected hinput (hcalled.of_recorded hrecorded)
  | formatted hinput hcalled => exact .formatted hinput (hcalled.of_recorded hrecorded)

theorem replied_applied (houtcome : ∀ engine, outcome = .ok engine → Piped engine)
    (input : String) (machine : Machine) :
    Replied machine input (Step.applied outcome input machine).1
      (Step.applied outcome input machine).2 := by
  cases outcome with
  | error cause => exact .uninitialized (.refl machine)
  | ok engine =>
      obtain ⟨launch, result, hinput, hcalled, hanswer⟩ := houtcome engine rfl input machine
      simp only [Step.applied, bind, StateT.bind]
      rcases hengine : engine input machine with ⟨answer, next⟩
      rw [hengine] at hcalled hanswer
      subst hanswer
      cases result with
      | ok text => exact .formatted hinput hcalled
      | error error => exact .rejected hinput hcalled

theorem Piping.format (hpiping : Piping step) (input : String) (machine : Machine) :
    Replied machine input (step.format input machine).1.1 (step.format input machine).2 := by
  cases hsettled : step.outcome with
  | some outcome =>
      rw [Step.format_of_outcome hsettled]
      apply replied_applied
      intro engine hengine
      rw [hengine] at hsettled
      exact hpiping.settled engine hsettled
  | none =>
      have hrecorded := hpiping.recorded machine
      have hpiped := hpiping.initialized machine
      rcases hinitializer : step.initializer machine with ⟨outcome, made⟩
      rw [hinitializer] at hrecorded hpiped
      rw [Step.format_of_fresh hsettled hinitializer]
      exact (replied_applied hpiped input made).of_recorded hrecorded

end CodeFormatting.Ktfmt
