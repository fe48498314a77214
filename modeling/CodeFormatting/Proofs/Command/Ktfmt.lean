import CodeFormatting.Command.Run
namespace CodeFormatting.Command

/-! How a run of the formatting command over files ends. -/

variable {reports : List Files.Report} {machine : Machine} {call : Call} {given : KtfmtArguments}
  {source : Option Path} {config : Config} {step : Step Machine}

theorem errorsOf_eq_nil_iff :
    errorsOf reports = [] ↔ ∀ report ∈ reports, ∃ outcome, report.outcome = .ok outcome := by
  rw [errorsOf, List.filterMap_eq_nil_iff]
  refine forall₂_congr fun report _ => ?_
  cases report.outcome <;> simp

theorem changedPaths_eq_nil_iff :
    changedPaths reports = [] ↔ ∀ report ∈ reports, isChanged report = false := by
  rw [changedPaths, ← List.length_eq_zero_iff, List.length_mergeSort, List.length_map,
    List.length_eq_zero_iff, List.filter_eq_nil_iff]
  simp only [Bool.not_eq_true]

theorem unchanged_iff {report : Files.Report} :
    report.outcome = .ok .unchanged ↔
      (∃ outcome, report.outcome = .ok outcome) ∧ isChanged report = false := by
  rcases houtcome : report.outcome with error | outcome
  · simp
  · cases outcome <;> simp [isChanged, houtcome, Files.Outcome.isChanged]

theorem files_logErrors (errors : List Files.FileError) (machine : Machine) :
    (logErrors errors machine).2.files = machine.files := by
  induction errors generalizing machine with
  | nil => rfl
  | cons error rest induction => exact induction _

theorem files_conclude (mode : Files.Mode) (reports : List Files.Report) (machine : Machine) :
    (conclude mode reports machine).2.files = machine.files := by
  cases mode <;> exact files_logErrors (errorsOf reports) machine

/-- A check succeeds if it finds every file formatted. -/
theorem success_check_iff :
    (conclude .check reports machine).1.success = true ↔
      ∀ report ∈ reports, report.outcome = .ok .unchanged := by
  have hsuccess : (conclude .check reports machine).1.success =
      ((errorsOf reports).isEmpty && (changedPaths reports).isEmpty) := rfl
  rw [hsuccess, Bool.and_eq_true, List.isEmpty_iff, List.isEmpty_iff, errorsOf_eq_nil_iff,
    changedPaths_eq_nil_iff]
  constructor
  · rintro ⟨hsucceeds, hkept⟩ report hmem
    exact unchanged_iff.mpr ⟨hsucceeds report hmem, hkept report hmem⟩
  · intro hunchanged
    exact ⟨fun report hmem => (unchanged_iff.mp (hunchanged report hmem)).1,
      fun report hmem => (unchanged_iff.mp (hunchanged report hmem)).2⟩

/-- A writing run succeeds if nothing fails. -/
theorem success_write_iff :
    (conclude .write reports machine).1.success = true ↔
      ∀ report ∈ reports, ∃ outcome, report.outcome = .ok outcome := by
  have hsuccess : (conclude .write reports machine).1.success = (errorsOf reports).isEmpty := rfl
  rw [hsuccess, List.isEmpty_iff, errorsOf_eq_nil_iff]

/-- What a run notes once it has read its configuration. -/
def configured (config : Config) (machine : Machine) : Machine :=
  machine.record (.logged ⟨.trace, commandTarget, "config=" ++ config.description⟩)

theorem perform_files (hconfig : configOf machine ⟨source, .ktfmt given⟩ = .ok config)
    (hstep : stepOf call.environment machine.home (given.onto config.ktfmt) = .ok step)
    (hfiles : given.files ≠ []) :
    perform call ⟨source, .ktfmt given⟩ machine =
      (let ((reports, _), next) :=
        Files.formatFiles given.mode given.files step (configured config machine)
      (.ok (conclude given.mode reports next).1, (conclude given.mode reports next).2)) := by
  have hnonempty : given.files.isEmpty = false := by simpa using hfiles
  simp only [perform, bind, StateT.bind, get, getThe, MonadStateOf.get, StateT.get, pure, hconfig]
  have hlater : stepOf call.environment (configured config machine).home
      (given.onto config.ktfmt) = .ok step := hstep
  show ktfmt call.environment given config.ktfmt call.input (configured config machine) = _
  simp only [ktfmt, bind, StateT.bind, get, getThe, MonadStateOf.get, StateT.get, pure, hlater,
    hnonempty]
  rfl

/-- The end of a run over files, which its reports decide. -/
theorem run_files (hparse : Arguments.parse call.arguments = .ok ⟨source, .ktfmt given⟩)
    (hconfig : configOf machine ⟨source, .ktfmt given⟩ = .ok config)
    (hstep : stepOf call.environment machine.home (given.onto config.ktfmt) = .ok step)
    (hfiles : given.files ≠ []) {reports : List Files.Report} {after : Step Machine}
    {next : Machine}
    (hformat : Files.formatFiles given.mode given.files step (configured config machine) =
      ((reports, after), next)) :
    ((run call machine).1.code = 0 ↔ (conclude given.mode reports next).1.success = true) ∧
      (run call machine).2.files = next.files := by
  have hperform := perform_files hconfig hstep hfiles
  rw [hformat] at hperform
  have hends : (run call machine).1.code =
      (if (conclude given.mode reports next).1.success then successCode else failureCode) ∧
        (run call machine).2 = (conclude given.mode reports next).2 := by
    rcases hfilter : Log.Filter.parse (filterText call.environment) with ⟨invalid, filter⟩
    simp only [run, hfilter, hparse, runParsed, bind, StateT.bind, hperform]
    exact ⟨rfl, rfl⟩
  rw [hends.1, hends.2, files_conclude]
  refine ⟨?_, rfl⟩
  cases (conclude given.mode reports next).1.success <;> simp [successCode, failureCode]

end CodeFormatting.Command
