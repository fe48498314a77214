import CodeFormatting.Proofs.Command.Failure
import CodeFormatting.Proofs.Files.Repeated
import CodeFormatting.Proofs.Files.Reports
import CodeFormatting.Proofs.Ktfmt.CommandLine
import CodeFormatting.Proofs.Path.Order
namespace CodeFormatting.Command

/-! What a run of the formatting command says about its files. -/

open Files (Journaling Steady formatFiles formatTogether)

variable {reports : List Files.Report} {machine next after : Machine} {call : Call}
  {given : KtfmtArguments} {source : Option Path} {config : Config} {step : Step Machine}
  {mode : Files.Mode} {files : List Path} {schedule : List Nat} {batch : Files.Batch Machine}

/-! Nothing that formatting a file writes to the journal is an error. -/

def Calm (event : Event) : Prop :=
  ∀ record, event = .logged record → record.level ≠ .error

theorem calm_logged {level : Log.Level} (hlevel : level ≠ .error) (target text : String) :
    Calm (.logged ⟨level, target, text⟩) := by
  intro record hrecord
  rw [← Event.logged.inj hrecord]
  exact hlevel

theorem calm_started (launch : Launch) : Calm (.started launch) :=
  nofun

theorem noting_calm : Ktfmt.Noting Calm where
  note target text hlevel := by
    apply calm_logged
    rintro rfl
    simp at hlevel
  missing home := by
    apply calm_logged
    decide

theorem plays_of_established {configuration : Ktfmt.Configuration Machine}
    {loader : Ktfmt.JavaLoader} {program? : Option Ktfmt.JavaProgram}
    {outcome : Except StepError (Engine Machine)}
    (hestablished : Ktfmt.Established configuration loader program? outcome) :
    Files.Plays Calm outcome := by
  intro input
  cases hestablished with
  | failed => exact journals_pure trivial
  | loaded hruns hresolution =>
      refine (Ktfmt.journals_engine noting_calm hresolution (calm_started _)).bind ?_
      intro answer _
      cases answer <;> exact journals_pure trivial

theorem journaling_of_stepOf {environment : Environment} {home : Option Path}
    {config : KtfmtConfig} (hstep : stepOf environment home config = .ok step) :
    Journaling Calm step := by
  obtain ⟨repository, loader, coordinate, style, rfl⟩ :=
    Ktfmt.exists_configuration_of_stepOf hstep
  refine ⟨nofun, ?_⟩
  intro machine
  have hquiet : Journals Calm (fun _ => True) (repository.provisioner coordinate) :=
    fun _ => ⟨trivial, .of_eq rfl⟩
  have hmade : Journals Calm
      (fun outcome => ∃ program?, Ktfmt.Established
        ⟨coordinate, style, repository.provisioner, loader.loader⟩ loader program? outcome)
      (Ktfmt.Configuration.makeEngine
        ⟨coordinate, style, repository.provisioner, loader.loader⟩) :=
    Ktfmt.journals_makeEngine noting_calm rfl hquiet
  obtain ⟨⟨program?, hestablished⟩, hjournaled⟩ := hmade machine
  exact ⟨plays_of_established hestablished, hjournaled⟩

def errorsIn (machine : Machine) : List Log.Record :=
  machine.records.filter fun record => record.level = .error

theorem errorsIn_of_calm (hjournaled : Journaled Calm machine next) :
    errorsIn next = errorsIn machine := by
  obtain ⟨events, hevents, hcalm⟩ := hjournaled
  unfold errorsIn Machine.records
  rw [hevents, List.filterMap_append, List.filter_append]
  apply List.append_right_eq_self.mpr
  rw [List.filter_eq_nil_iff]
  intro record hrecord
  obtain ⟨event, hevent, hlogged⟩ := List.mem_filterMap.mp hrecord
  cases event with
  | logged other =>
      obtain rfl := Option.some.inj hlogged
      simpa using hcalm _ hevent other rfl
  | started launch => contradiction

/-! What is concluded from the reports. -/

def errorRecord (error : Files.FileError) : Log.Record :=
  ⟨.error, commandTarget, errorText error⟩

theorem records_logErrors (errors : List Files.FileError) (machine : Machine) :
    (logErrors errors machine).2.records = machine.records ++ errors.map errorRecord := by
  induction errors generalizing machine with
  | nil => exact (List.append_nil _).symm
  | cons error rest induction =>
      have hrest := induction (machine.record (.logged (errorRecord error)))
      rw [Machine.records_record_logged, List.append_assoc, List.singleton_append] at hrest
      exact hrest

/-- The paths whose reports have an outcome, in the order in which they were listed. -/
def reported (outcome : Files.Outcome) (reports : List Files.Report) : List Path :=
  (reports.filter fun report => report.outcome = .ok outcome).map (·.path)

/-- How a run in a mode reports that a file differs. -/
def difference : Files.Mode → Files.Outcome
  | .write => .formatted
  | .check => .wouldFormat

theorem isChanged_eq {report : Files.Report}
    (hsuits : (Files.Stage.finished report.outcome).Suits mode) :
    isChanged report = decide (report.outcome = .ok (difference mode)) := by
  obtain ⟨path, outcome⟩ := report
  cases outcome with
  | error error => cases mode <;> simp [isChanged, difference]
  | ok outcome =>
      cases outcome with
      | unchanged =>
          cases mode <;> simp [isChanged, difference, Files.Outcome.isChanged]
      | formatted =>
          obtain rfl : mode = .write := hsuits
          rfl
      | wouldFormat =>
          obtain rfl : mode = .check := hsuits
          rfl

/-- Some paths in the order of their components. Those with the same components stay as they
were. -/
structure Sorts (paths listed : List Path) : Prop where
  perm : listed.Perm paths
  ordered : listed.Pairwise fun left right => left.key ≤ right.key
  stable : ∀ key, (listed.filter fun path => path.key = key) =
    paths.filter fun path => path.key = key

theorem sorts_mergeSort (paths : List Path) :
    Sorts paths (paths.mergeSort fun left right => (left.compare right).isLE) := by
  have htransitive (first second third : Path) (hfirst : (first.compare second).isLE = true)
      (hsecond : (second.compare third).isLE = true) : (first.compare third).isLE = true := by
    rw [Path.isLE_compare_iff] at *
    exact hfirst.trans hsecond
  have htotal (first second : Path) :
      ((first.compare second).isLE || (second.compare first).isLE) = true := by
    rw [Bool.or_eq_true, Path.isLE_compare_iff, Path.isLE_compare_iff]
    exact le_total _ _
  have hperm := List.mergeSort_perm paths fun left right => (left.compare right).isLE
  refine ⟨hperm, ?_, ?_⟩
  · apply (List.pairwise_mergeSort htransitive htotal paths).imp
    intro left right hle
    exact Path.isLE_compare_iff.mp hle
  · intro key
    -- those with one key stand in order already, so that sorting keeps them as they are
    have hequal : (paths.filter fun path => path.key = key).Pairwise
        fun left right => (left.compare right).isLE = true := by
      apply List.pairwise_of_forall_mem_list
      intro left hleft right hright
      rw [Path.isLE_compare_iff, of_decide_eq_true (List.mem_filter.mp hleft).2,
        of_decide_eq_true (List.mem_filter.mp hright).2]
    have hsublist := (List.sublist_mergeSort htransitive htotal hequal List.filter_sublist).filter
      fun path => path.key = key
    rw [List.filter_filter] at hsublist
    simp only [Bool.and_self] at hsublist
    exact (hsublist.eq_of_length (hperm.filter _).length_eq.symm).symm

theorem sorts_changedPaths
    (hsuits : ∀ report ∈ reports, (Files.Stage.finished report.outcome).Suits mode) :
    Sorts (reported (difference mode) reports) (changedPaths reports) := by
  have hfilter : reports.filter isChanged =
      reports.filter fun report => report.outcome = .ok (difference mode) := by
    apply List.filter_congr
    intro report hmem
    exact isChanged_eq (hsuits report hmem)
  unfold changedPaths reported
  rw [hfilter]
  exact sorts_mergeSort _

/-- What comes of the reports of a run that began on a machine: how it ends, what it prints and
what it logs. -/
structure Reported (mode : Files.Mode) (files : List Path) (reports : List Files.Report)
    (machine next : Machine) (result : Result) (after : Machine) : Prop where
  paths : reports.map (·.path) = files
  success : result.success = true ↔ ∀ report ∈ reports,
    (∃ outcome, report.outcome = .ok outcome) ∧
      (mode = .check → report.outcome ≠ .ok .wouldFormat)
  checked : mode = .check →
    (∃ listed, Sorts (reported .wouldFormat reports) listed ∧ result.output = linesOf listed) ∧
      after.records = next.records ++ (errorsOf reports).map errorRecord
  written : mode = .write → result.output = "" ∧
    after.records = next.records ++ (errorsOf reports).map errorRecord ++
      [⟨.info, commandTarget, summary (reported .formatted reports).length files.length⟩]
  errors : errorsIn after = errorsIn machine ++ (errorsOf reports).map errorRecord

theorem success_iff (hsuits : ∀ report ∈ reports,
      (Files.Stage.finished report.outcome).Suits mode) (machine : Machine) :
    (conclude mode reports machine).1.success = true ↔ ∀ report ∈ reports,
      (∃ outcome, report.outcome = .ok outcome) ∧
        (mode = .check → report.outcome ≠ .ok .wouldFormat) := by
  cases mode with
  | write =>
      rw [success_write_iff]
      simp
  | check =>
      rw [success_check_iff]
      apply forall₂_congr
      intro report hmem
      have hsuited := hsuits report hmem
      rcases report with ⟨path, error | _ | _ | _⟩
      · simp
      · simp
      · cases hsuited
      · simp

theorem errorsIn_of_records {records : List Log.Record} {errors : List Files.FileError}
    (hrecords : after.records = next.records ++ errors.map errorRecord ++ records)
    (hcalm : ∀ record ∈ records, record.level ≠ .error) (hnext : errorsIn next = errorsIn machine) :
    errorsIn after = errorsIn machine ++ errors.map errorRecord := by
  have herrors : (errors.map errorRecord).filter (fun record => record.level = .error) =
      errors.map errorRecord := by
    rw [List.filter_eq_self]
    intro record hmem
    obtain ⟨error, -, rfl⟩ := List.mem_map.mp hmem
    rfl
  have hother : records.filter (fun record => record.level = .error) = [] := by
    rw [List.filter_eq_nil_iff]
    intro record hmem
    simpa using hcalm record hmem
  rw [← hnext, errorsIn, hrecords, List.filter_append, List.filter_append, herrors, hother,
    List.append_nil]
  rfl

theorem reported_conclude (hpaths : reports.map (·.path) = files)
    (hsuits : ∀ report ∈ reports, (Files.Stage.finished report.outcome).Suits mode)
    (hnext : errorsIn next = errorsIn machine) :
    Reported mode files reports machine next (conclude mode reports next).1
      (conclude mode reports next).2 := by
  have hrecords := records_logErrors (errorsOf reports) next
  have hsorts := sorts_changedPaths hsuits
  cases mode with
  | check =>
      have hlogged : (conclude .check reports next).2.records =
          next.records ++ (errorsOf reports).map errorRecord := hrecords
      refine ⟨hpaths, success_iff hsuits next, fun _ => ⟨⟨_, hsorts, rfl⟩, hlogged⟩, nofun, ?_⟩
      exact errorsIn_of_records (hlogged.trans (List.append_nil _).symm) (by simp) hnext
  | write =>
      have hlogged : (conclude .write reports next).2.records =
          next.records ++ (errorsOf reports).map errorRecord ++ [⟨.info, commandTarget,
            summary (reported .formatted reports).length files.length⟩] := by
        have hchanged : (changedPaths reports).length = (reported .formatted reports).length :=
          hsorts.perm.length_eq
        rw [← hrecords, ← hchanged, ← hpaths, List.length_map]
        exact Machine.records_record_logged _ _
      refine ⟨hpaths, success_iff hsuits next, nofun, fun _ => ⟨rfl, hlogged⟩, ?_⟩
      exact errorsIn_of_records hlogged (by simp) hnext

theorem reported_formatTogether {environment : Environment} {home : Option Path}
    {settings : KtfmtConfig} (hstep : stepOf environment home settings = .ok step)
    (hrun : formatTogether mode files step schedule (configured config machine) = (batch, next))
    (hreports : batch.reports? = some reports) :
    Reported mode files reports machine next (conclude mode reports next).1
      (conclude mode reports next).2 := by
  apply reported_conclude (Files.paths_reports_formatTogether hrun hreports)
  · intro report hmem
    exact Files.suits_of_report hrun hreports hmem
  · have hformat := Files.journaled_formatTogether
      (fun level text hlevel => calm_logged (by rintro rfl; simp at hlevel) _ _)
      (journaling_of_stepOf hstep) mode files schedule (configured config machine)
    rw [hrun] at hformat
    have hconfigured : Journaled Calm machine (configured config machine) :=
      ⟨[_], rfl, by simpa using calm_logged (by decide) _ _⟩
    exact errorsIn_of_calm (hconfigured.trans hformat)

theorem reported_run (hparse : Arguments.parse call.arguments = .ok ⟨source, .ktfmt given⟩)
    (hconfig : configOf machine ⟨source, .ktfmt given⟩ = .ok config)
    (hstep : stepOf call.environment machine.home (given.onto config.ktfmt) = .ok step)
    (hfiles : given.files ≠ []) {made : Step Machine}
    (hformat : formatFiles given.mode given.files step (configured config machine) =
      ((reports, made), next)) :
    ∃ result, (run call machine).1.code = (if result.success then successCode else failureCode) ∧
      (run call machine).1.output = result.output ∧
      Reported given.mode given.files reports machine next result (run call machine).2 := by
  obtain ⟨batch, hrun, hreports, -⟩ := Files.formatFiles_of_formatTogether hformat
  have hperform := perform_files hconfig hstep hfiles
  rw [hformat] at hperform
  obtain ⟨hcode, houtput, hafter⟩ := run_of_perform hparse hperform
  rw [hafter]
  exact ⟨_, hcode, houtput, reported_formatTogether hstep hrun hreports⟩

theorem count_reported {outcome : Files.Outcome} {path : Path}
    (hall : ∀ report ∈ reports, report.path = path → report.outcome = .ok outcome) :
    (reported outcome reports).count path = (reports.map (·.path)).count path := by
  unfold reported
  rw [List.count_eq_countP, List.count_eq_countP, List.countP_map, List.countP_map,
    List.countP_filter]
  apply List.countP_congr
  intro report hmem
  have hsame := hall report hmem
  simpa using hsame

theorem not_mem_reported {outcome : Files.Outcome} {path : Path}
    (hnone : ∀ report ∈ reports, report.path = path → report.outcome ≠ .ok outcome) :
    path ∉ reported outcome reports := by
  intro hreported
  obtain ⟨report, hmem, hpath⟩ := List.mem_map.mp hreported
  obtain ⟨hmem, houtcome⟩ := List.mem_filter.mp hmem
  exact hnone report hmem hpath (of_decide_eq_true houtcome)

/-- A run over files ends well just if no report is an error and, in a check, none says that a
file would be formatted. A check prints the paths of those reports, in the order of their
components and each as often as it was listed, and nothing else. A writing run prints nothing and
logs how many of the listed files it has formatted. Either logs one error for each report that is
one, in the order of the list. -/
theorem report_run (hparse : Arguments.parse call.arguments = .ok ⟨source, .ktfmt given⟩)
    (hconfig : configOf machine ⟨source, .ktfmt given⟩ = .ok config)
    (hstep : stepOf call.environment machine.home (given.onto config.ktfmt) = .ok step)
    (hfiles : given.files ≠ []) :
    (∃ reports made next result,
      formatFiles given.mode given.files step (configured config machine) =
        ((reports, made), next) ∧
      ((run call machine).1.code = 0 ↔ result.success = true) ∧
      (run call machine).1.output = result.output ∧
      Reported given.mode given.files reports machine next result (run call machine).2) ∧
    ∀ schedule batch reports next,
      formatTogether given.mode given.files step schedule (configured config machine) =
        (batch, next) → batch.reports? = some reports →
      Reported given.mode given.files reports machine next
        (conclude given.mode reports next).1 (conclude given.mode reports next).2 ∧
      (∀ path listed, Sorts (reported .wouldFormat reports) listed →
        ((∀ report ∈ reports, report.path = path → report.outcome = .ok .wouldFormat) →
          listed.count path = given.files.count path) ∧
        ((∀ report ∈ reports, report.path = path → report.outcome ≠ .ok .wouldFormat) →
          path ∉ listed)) ∧
      ∀ steady : Steady step given.files, steady.Moment machine → given.mode = .check →
        ∀ first ∈ reports, ∀ second ∈ reports, first.path = second.path →
          first.outcome = second.outcome := by
  constructor
  · rcases hformat : formatFiles given.mode given.files step (configured config machine) with
      ⟨⟨reports, made⟩, next⟩
    obtain ⟨result, hcode, houtput, hreported⟩ := reported_run hparse hconfig hstep hfiles hformat
    refine ⟨reports, made, next, result, rfl, ?_, houtput, hreported⟩
    rw [hcode]
    cases result.success <;> simp [successCode, failureCode]
  · intro schedule batch reports next hrun hreports
    have hreported := reported_formatTogether hstep hrun hreports
    refine ⟨hreported, ?_, ?_⟩
    · intro path listed hsorts
      constructor
      · intro hall
        rw [hsorts.perm.count_eq, count_reported hall, hreported.paths]
      · intro hnone
        rw [hsorts.perm.mem_iff]
        exact not_mem_reported hnone
    · intro steady hmoment hmode first hfirst second hsecond hpath
      rw [hmode] at hrun
      have hstart : steady.Moment (configured config machine) := steady.record _ _ hmoment
      have hexpected := Files.reports_of_check hstart hrun hreports
      rw [hexpected] at hfirst hsecond
      obtain ⟨path, -, rfl⟩ := List.mem_map.mp hfirst
      obtain ⟨other, -, rfl⟩ := List.mem_map.mp hsecond
      obtain rfl : path = other := hpath
      rfl

def checkingTwice : Call :=
  ⟨.empty, ["ktfmt", "--java", "/java", "--repository", "/repository", "--check", "/a.kt", "/b.kt",
    "/a.kt"], .empty⟩

theorem report_run_of_twice :
    ∃ reports : List Files.Report,
      reports.map (·.path) = [⟨"/a.kt"⟩, ⟨"/b.kt"⟩, ⟨"/a.kt"⟩] ∧
      ((run checkingTwice (installed "y")).1.code = 0 ↔ ∀ report ∈ reports,
        (∃ outcome, report.outcome = .ok outcome) ∧ report.outcome ≠ .ok .wouldFormat) ∧
      (∃ listed, Sorts (reported .wouldFormat reports) listed ∧
        (run checkingTwice (installed "y")).1.output = linesOf listed) ∧
      errorsIn (run checkingTwice (installed "y")).2 = (errorsOf reports).map errorRecord := by
  have hparse : Arguments.parse checkingTwice.arguments = .ok ⟨none, .ktfmt { located with
      check := true, files := [⟨"/a.kt"⟩, ⟨"/b.kt"⟩, ⟨"/a.kt"⟩] }⟩ := rfl
  have hconfig : configOf (installed "y") ⟨none, .ktfmt located⟩ = .ok {} := rfl
  obtain ⟨step, hstep⟩ : ∃ step, stepOf .empty none (located.onto {}) = .ok step := ⟨_, rfl⟩
  obtain ⟨reports, made, next, result, -, hcode, houtput, hreported⟩ :=
    (report_run hparse hconfig hstep nofun).1
  obtain ⟨listed, hsorts, hlines⟩ := (hreported.checked rfl).1
  refine ⟨reports, hreported.paths, ?_, ⟨listed, hsorts, houtput.trans hlines⟩,
    hreported.errors⟩
  rw [hcode, hreported.success]
  exact forall₂_congr fun report _ => and_congr_right fun _ => forall_prop_of_true rfl

end CodeFormatting.Command
