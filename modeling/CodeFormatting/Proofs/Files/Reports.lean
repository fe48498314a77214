import CodeFormatting.Proofs.Files.Prediction
import CodeFormatting.Proofs.Files.Initialization
import CodeFormatting.Proofs.Journal
namespace CodeFormatting.Files

/-! What the reports of a run say, and what the run adds to the journal. -/

variable {mode : Mode} {path : Path} {paths : List Path} {step : Step Machine}
  {machine next : Machine} {cell after : Cell Machine} {stage later : Stage Machine}
  {tasks : List (Task Machine)} {index : Nat} {schedule : List Nat} {batch : Batch Machine}
  {reports : List Report}

/-- A stage that there is in a mode. Only a writing run formats, and only a check says that a run
would. -/
def Stage.Suits (mode : Mode) : Stage Machine → Prop
  | .filling _ _ => mode = .write
  | .finished (.ok .formatted) => mode = .write
  | .finished (.ok .wouldFormat) => mode = .check
  | _ => True

theorem Acts.suits (hacts : Acts mode path stage cell machine later after next)
    (hsuits : stage.Suits mode) : later.Suits mode := by
  cases hacts with
  | report hchanged hmode => exact hmode
  | empty hchanged hmode hopen => exact hmode
  | fill hfill => exact hsuits
  | rest => exact hsuits
  | _ => trivial

theorem suits_formatTogether (mode : Mode) (paths : List Path) (step : Step Machine)
    (schedule : List Nat) (machine : Machine) :
    ∀ task ∈ (formatTogether mode paths step schedule machine).1.tasks, task.stage.Suits mode := by
  apply Batch.run_induction fun batch _ => ∀ task ∈ batch.tasks, task.stage.Suits mode
  · intro cell after tasks index path stage later machine next hsuits hindex hacts
    exact forall_mem_set hsuits (hacts.suits (hsuits _ (List.mem_of_getElem? hindex))) index
  · intro task hmem
    rw [arriving_of_mem_start hmem]
    trivial

theorem suits_of_report (hrun : formatTogether mode paths step schedule machine = (batch, next))
    (hreports : batch.reports? = some reports) {report : Report} (hmem : report ∈ reports) :
    (Stage.finished report.outcome).Suits mode := by
  obtain ⟨rfl, rfl⟩ := Prod.mk.inj hrun.symm
  exact suits_formatTogether mode paths step schedule machine _
    (task_mem_of_reports hreports hmem)

/-! What is added to the journal. -/

/-- An outcome of a step that adds fitting events only, whatever is formatted with it. -/
def Plays (Fits : Event → Prop) (outcome : Except StepError (Engine Machine)) : Prop :=
  ∀ input, Journals Fits (fun _ => True) (Step.applied outcome input)

structure Journaling (Fits : Event → Prop) (step : Step Machine) : Prop where
  settled : ∀ outcome, step.outcome = some outcome → Plays Fits outcome
  initializer : Journals Fits (Plays Fits) step.initializer

variable {Fits : Event → Prop}

def Stage.Plays (Fits : Event → Prop) : Stage Machine → Prop
  | .holding _ (.resolved outcome) => Files.Plays Fits outcome
  | _ => True

theorem Stage.Plays.journaled {content : String} {outcome : Except StepError (Engine Machine)}
    {answer : Except FormatError String}
    (hplays : (Stage.holding content (.resolved outcome)).Plays Fits)
    (happlied : Step.applied outcome content machine = (answer, next)) :
    Journaled Fits machine next := by
  have hjournaled := (hplays content machine).2
  rwa [happlied] at hjournaled

theorem Acts.journals (hacts : Acts mode path stage cell machine later after next)
    (hown : ∀ level text, level = .debug ∨ level = .trace →
      Fits (.logged ⟨level, filesTarget, text⟩))
    (hplays : stage.Plays Fits) (hjournaling : Journaling Fits cell.step) :
    later.Plays Fits ∧ Journaling Fits after.step ∧ Journaled Fits machine next := by
  cases hacts with
  | borrow hsettled => exact ⟨hjournaling.settled _ hsettled, hjournaling, .of_eq rfl⟩
  | prepare hinitializer =>
      obtain ⟨hplays, hjournaled⟩ := hjournaling.initializer machine
      rw [hinitializer] at hplays hjournaled
      refine ⟨hplays, ⟨?_, hjournaling.initializer⟩, hjournaled⟩
      intro outcome hsettled
      rwa [← Option.some.inj hsettled]
  | reject happlied => exact ⟨trivial, hjournaling, hplays.journaled happlied⟩
  | format happlied => exact ⟨trivial, hjournaling, hplays.journaled happlied⟩
  | keep =>
      exact ⟨trivial, hjournaling, (journals_log (hown .trace _ (.inr rfl)) machine).2⟩
  | fill hfill =>
      exact ⟨trivial, hjournaling, (journals_log (hown .debug _ (.inl rfl)) _).2⟩
  | _ => exact ⟨trivial, hjournaling, .of_eq rfl⟩

theorem journaled_formatTogether
    (hown : ∀ level text, level = .debug ∨ level = .trace →
      Fits (.logged ⟨level, filesTarget, text⟩))
    (hjournaling : Journaling Fits step) (mode : Mode) (paths : List Path) (schedule : List Nat)
    (machine : Machine) :
    Journaled Fits machine (formatTogether mode paths step schedule machine).2 := by
  have hbegun : Journaled Fits machine (begun mode paths step machine) :=
    (journals_log (hown .debug _ (.inl rfl)) machine).2
  apply hbegun.trans
  apply (Batch.run_induction (fun batch now => Journaling Fits batch.cell.step ∧
    (∀ task ∈ batch.tasks, task.stage.Plays Fits) ∧
    Journaled Fits (begun mode paths step machine) now) _ _ schedule).2.2
  · intro cell after tasks index path stage later now next hholds hindex hacts
    obtain ⟨hjournaling, hplays, hjournaled⟩ := hholds
    obtain ⟨hlater, hjournaling, hadded⟩ :=
      hacts.journals hown (hplays _ (List.mem_of_getElem? hindex)) hjournaling
    exact ⟨hjournaling, forall_mem_set hplays hlater index, hjournaled.trans hadded⟩
  · refine ⟨hjournaling, ?_, .of_eq rfl⟩
    intro task hmem
    rw [arriving_of_mem_start hmem]
    trivial

/-! The reports of a check, which finds each file as it was at first, even if it is listed more
than once. -/

/-- No file has been written, and every task is going to end as its file lets it. -/
def Unwritten (answer : String → Except FormatError String) (origin : Machine)
    (tasks : List (Task Machine)) (files : FileSystem) : Prop :=
  files = origin.files ∧ ∀ task ∈ tasks,
    (∀ location text, task.stage ≠ .filling location text) ∧
    task.stage.ending .check answer origin.location task.path origin.files =
      expected .check answer origin task.path

theorem unwritten_of_check {steady : Steady step paths} (hmoment : steady.Moment machine)
    (schedule : List Nat) :
    Unwritten steady.answer machine (formatTogether .check paths step schedule machine).1.tasks
      (formatTogether .check paths step schedule machine).2.files := by
  have hstart : Sound steady machine (Batch.start paths step) (begun .check paths step machine) :=
    sound_start (steady.record _ _ hmoment) (quiet_record machine _)
  refine (Sound.run (Unwritten steady.answer machine) ?_ hstart ⟨rfl, ?_⟩ schedule).2
  · intro cell tasks now index path stage later files hsound hholds hindex hmoves
    obtain ⟨hsame, htasks⟩ := hholds
    obtain ⟨hstage, hended⟩ := htasks _ (List.mem_of_getElem? hindex)
    obtain ⟨hfiles, hlater⟩ := hmoves.files_eq_of_check hstage
    have hkept := hmoves.ending_eq
    rw [hfiles, hsame] at hkept
    exact ⟨hfiles.trans hsame, forall_mem_set htasks ⟨hlater, hkept.trans hended⟩ index⟩
  · intro task hmem
    rw [arriving_of_mem_start hmem]
    exact ⟨nofun, rfl⟩

theorem reports_of_check {steady : Steady step paths} (hmoment : steady.Moment machine)
    (hrun : formatTogether .check paths step schedule machine = (batch, next))
    (hreports : batch.reports? = some reports) :
    reports = paths.map fun path => ⟨path, (expected .check steady.answer machine path).1⟩ := by
  apply reports_eq_map (paths_reports_formatTogether hrun hreports)
  obtain ⟨-, htasks⟩ := unwritten_of_check hmoment schedule
  rw [hrun] at htasks
  intro report hmem
  exact congrArg Prod.fst (htasks report.task (task_mem_of_reports hreports hmem)).2

end CodeFormatting.Files
