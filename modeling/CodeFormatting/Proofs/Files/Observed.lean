import CodeFormatting.Proofs.Files.Rounds
import CodeFormatting.Proofs.Step.Memoisation
namespace CodeFormatting.Files

/-! Files that are formatted with an observed step. The tasks do all that they do with the step
itself, and what is noted meanwhile says how often its initializer has been run. -/

abbrev Watching := Watched Unit Machine

variable {mode : Mode} {path : Path} {paths : List Path} {step : Step Machine}
  {cell after : Cell Machine} {stage later : Stage Machine} {machine next : Machine}
  {batch : Batch Machine} {index : Nat} {schedule : List Nat}

def Use.observed : Use Machine → Use Watching
  | .waiting => .waiting
  | .initializing => .initializing
  | .resolved outcome => .resolved (Outcome.observed () outcome)

def Stage.observed : Stage Machine → Stage Watching
  | .arriving => .arriving
  | .holding content use => .holding content use.observed
  | .formatted content text => .formatted content text
  | .filling location text => .filling location text
  | .finished outcome => .finished outcome

def Cell.observed (cell : Cell Machine) : Cell Watching where
  step := cell.step.observed ()
  claimed := cell.claimed

def Task.observed (task : Task Machine) : Task Watching where
  path := task.path
  stage := task.stage.observed

def Batch.observed (batch : Batch Machine) : Batch Watching where
  cell := batch.cell.observed
  tasks := batch.tasks.map Task.observed

def Stage.isInitializing : Stage Machine → Bool
  | .holding _ .initializing => true
  | _ => false

/-- What the initializer answers in an action of a task, if it is run in it. -/
def Task.initialization? (cell : Cell Machine) (machine : Machine) (task : Task Machine) :
    Option (Except StepError (Engine Machine)) :=
  if task.stage.isInitializing then some (cell.step.initializer machine).1 else none

/-- An action of a task and what it leaves are observed, and the notes of it say what the
initializer has answered. -/
def Seen (mode : Mode) (path : Path) (stage : Stage Machine) (cell : Cell Machine)
    (machine : Machine) (later : Stage Machine) (after : Cell Machine) (next : Machine) : Prop :=
  ∃ own, (∀ notes, stage.observed.act mode path cell.observed ⟨machine, notes⟩ =
      ((later.observed, after.observed), ⟨next, notes ++ own⟩)) ∧
    own.filterMap Happening.outcome? =
      (Task.initialization? cell machine ⟨path, stage⟩).toList

theorem applied_observed {outcome : Except StepError (Engine Machine)} {content : String}
    {answer : Except FormatError String}
    (happlied : Step.applied outcome content machine = (answer, next)) :
    ∃ own : List (Happening Unit Machine),
      (∀ notes, Step.applied (Outcome.observed () outcome) content ⟨machine, notes⟩ =
        (answer, ⟨next, notes ++ own⟩)) ∧ own.filterMap Happening.outcome? = [] := by
  cases outcome with
  | error error =>
      cases happlied
      exact ⟨[], fun notes => by rw [List.append_nil]; rfl, rfl⟩
  | ok engine =>
      refine ⟨[.applied () engine content (engine content machine).1], fun notes => ?_, rfl⟩
      rcases hengine : engine content machine with ⟨error | output, made⟩ <;>
        simp only [Step.applied, bind, StateT.bind, hengine] at happlied <;>
        cases happlied <;>
        simp only [Step.applied, Outcome.observed, bind, StateT.bind, Engine.observed,
          Observed.noted, hengine] <;>
        rfl

theorem Seen.of_quiet (hidle : stage.isInitializing = false)
    (hact : ∀ notes, stage.observed.act mode path cell.observed ⟨machine, notes⟩ =
      ((later.observed, after.observed), ⟨next, notes⟩)) :
    Seen mode path stage cell machine later after next := by
  refine ⟨[], fun notes => by rw [hact, List.append_nil], ?_⟩
  rw [Task.initialization?, hidle]
  rfl

theorem Acts.seen (hacts : Acts mode path stage cell machine later after next) :
    Seen mode path stage cell machine later after next := by
  cases hacts with
  | unreadable hread =>
      refine .of_quiet rfl fun notes => ?_
      simp only [Stage.observed, Stage.act, HasMachine.onMachine, bind, StateT.bind, get, getThe,
        MonadStateOf.get, StateT.get, pure, hread]
      rfl
  | read hread =>
      refine .of_quiet rfl fun notes => ?_
      simp only [Stage.observed, Stage.act, HasMachine.onMachine, bind, StateT.bind, get, getThe,
        MonadStateOf.get, StateT.get, pure, hread]
      rfl
  | borrow hsettled =>
      refine .of_quiet rfl fun notes => ?_
      simp only [Stage.observed, Use.observed, Stage.act, Cell.observed, Step.observed, hsettled]
      rfl
  | wait hfresh hclaimed =>
      refine .of_quiet rfl fun notes => ?_
      simp only [Stage.observed, Use.observed, Stage.act, Cell.observed, Step.observed, hfresh,
        hclaimed]
      rfl
  | claim hfresh hfree =>
      refine .of_quiet rfl fun notes => ?_
      simp only [Stage.observed, Use.observed, Stage.act, Cell.observed, Step.observed, hfresh,
        hfree]
      rfl
  | prepare hinitializer =>
      refine ⟨[.initialized () (cell.step.initializer machine).1], fun notes => ?_, rfl⟩
      simp only [Stage.observed, Use.observed, Stage.act, Cell.observed, Step.observed,
        Initializer.observed, Observed.noted, bind, StateT.bind, hinitializer]
      rfl
  | reject happlied =>
      obtain ⟨own, hobserved, hown⟩ := applied_observed happlied
      refine ⟨own, fun notes => ?_, hown⟩
      simp only [Stage.observed, Use.observed, Stage.act, bind, StateT.bind, hobserved]
      rfl
  | format happlied =>
      obtain ⟨own, hobserved, hown⟩ := applied_observed happlied
      refine ⟨own, fun notes => ?_, hown⟩
      simp only [Stage.observed, Use.observed, Stage.act, bind, StateT.bind, hobserved]
      rfl
  | keep =>
      refine .of_quiet rfl fun notes => ?_
      simp only [Stage.observed, Stage.act]
      rfl
  | report hchanged hmode =>
      refine .of_quiet rfl fun notes => ?_
      simp only [Stage.observed, Stage.act, if_neg hchanged, hmode]
      rfl
  | refuse hchanged hmode hopen =>
      refine .of_quiet rfl fun notes => ?_
      simp only [Stage.observed, Stage.act, if_neg hchanged, hmode, HasMachine.onMachine, bind,
        StateT.bind, openFile, hopen]
      rfl
  | empty hchanged hmode hopen =>
      refine .of_quiet rfl fun notes => ?_
      simp only [Stage.observed, Stage.act, if_neg hchanged, hmode, HasMachine.onMachine, bind,
        StateT.bind, openFile, hopen]
      rfl
  | cut hfill =>
      refine .of_quiet rfl fun notes => ?_
      simp only [Stage.observed, Stage.act, HasMachine.onMachine, bind, StateT.bind, fillFile,
        hfill]
      rfl
  | fill hfill =>
      refine .of_quiet rfl fun notes => ?_
      simp only [Stage.observed, Stage.act, HasMachine.onMachine, bind, StateT.bind, fillFile,
        hfill]
      rfl
  | rest => exact .of_quiet rfl fun notes => rfl

/-! A whole run. -/

/-- What is noted while tasks take their turns. -/
def Batch.notes (mode : Mode) (batch : Batch Machine) (schedule : List Nat) (machine : Machine) :
    List (Happening Unit Machine) :=
  (Observed.collected (batch.observed.run mode schedule) machine).1.2

/-- The answers of the initializer, one for each time that it was run. -/
def initializations (notes : List (Happening Unit Machine)) :
    List (Except StepError (Engine Machine)) :=
  notes.filterMap Happening.outcome?

namespace Batch

theorem exists_advance_observed (mode : Mode) (batch : Batch Machine) (index : Nat)
    (machine : Machine) :
    ∃ own, (∀ notes, batch.observed.advance mode index ⟨machine, notes⟩ =
        ((batch.advance mode index machine).1.observed,
          ⟨(batch.advance mode index machine).2, notes ++ own⟩)) ∧
      own.filterMap Happening.outcome? =
        ((batch.tasks[index]?).bind (·.initialization? batch.cell machine)).toList := by
  rcases hindex : batch.tasks[index]? with _ | ⟨path, stage⟩
  · have habsent : batch.observed.tasks[index]? = none := by
      rw [Batch.observed, List.getElem?_map, hindex]
      rfl
    refine ⟨[], fun notes => ?_, rfl⟩
    rw [advance_of_absent hindex, advance_of_absent habsent, List.append_nil]
  · have hpresent : (batch.tasks.map Task.observed)[index]? = some ⟨path, stage.observed⟩ := by
      rw [List.getElem?_map, hindex]
      rfl
    obtain ⟨own, hact, hown⟩ := (acts_act mode path stage batch.cell machine).seen
    refine ⟨own, fun notes => ?_, hown⟩
    rw [advance_of_act hindex rfl, Batch.observed, advance_of_act hpresent (hact notes),
      Batch.observed, List.map_set]
    rfl

/-- Tasks with an observed step do what they do with the step itself, and only add notes. -/
theorem run_observed (mode : Mode) (batch : Batch Machine) (schedule : List Nat)
    (machine : Machine) (notes : List (Happening Unit Machine)) :
    batch.observed.run mode schedule ⟨machine, notes⟩ =
      ((batch.run mode schedule machine).1.observed,
        ⟨(batch.run mode schedule machine).2, notes ++ batch.notes mode schedule machine⟩) := by
  induction schedule generalizing batch machine notes with
  | nil =>
      have hnone : batch.notes mode [] machine = [] := rfl
      rw [hnone, List.append_nil]
      rfl
  | cons index rest induction =>
      obtain ⟨own, hadvance, -⟩ := exists_advance_observed mode batch index machine
      have hnotes : batch.notes mode (index :: rest) machine =
          own ++ (batch.advance mode index machine).1.notes mode rest
            (batch.advance mode index machine).2 := by
        rw [Batch.notes, Observed.collected, run_cons, hadvance, induction]
        rfl
      rw [run_cons, hadvance, induction, hnotes, List.append_assoc]
      rfl

theorem initializations_cons (mode : Mode) (batch : Batch Machine) (index : Nat)
    (rest : List Nat) (machine : Machine) :
    initializations (batch.notes mode (index :: rest) machine) =
      ((batch.tasks[index]?).bind (·.initialization? batch.cell machine)).toList ++
        initializations ((batch.advance mode index machine).1.notes mode rest
          (batch.advance mode index machine).2) := by
  obtain ⟨own, hadvance, hown⟩ := exists_advance_observed mode batch index machine
  rw [initializations, Batch.notes, Observed.collected, run_cons, hadvance, run_observed, ← hown,
    initializations, ← List.filterMap_append]
  rfl

theorem observed_start (paths : List Path) (step : Step Machine) :
    (start paths step).observed = start paths (step.observed ()) :=
  congrArg (Batch.mk _) List.map_map

theorem reports_observed (batch : Batch Machine) : batch.observed.reports = batch.reports := by
  rw [Batch.reports, Batch.observed, List.filterMap_map, Batch.reports]
  refine List.filterMap_congr fun task _ => ?_
  rcases task with ⟨path, stage⟩
  cases stage <;> rfl

end Batch

/-- What is noted while files are formatted together. -/
def notesTogether (mode : Mode) (paths : List Path) (step : Step Machine) (schedule : List Nat)
    (machine : Machine) : List (Happening Unit Machine) :=
  (Batch.start paths step).notes mode schedule (begun mode paths step machine)

theorem formatTogether_observed (mode : Mode) (paths : List Path) (step : Step Machine)
    (schedule : List Nat) (machine : Machine) (notes : List (Happening Unit Machine)) :
    formatTogether mode paths (step.observed ()) schedule ⟨machine, notes⟩ =
      ((formatTogether mode paths step schedule machine).1.observed,
        ⟨(formatTogether mode paths step schedule machine).2,
          notes ++ notesTogether mode paths step schedule machine⟩) := by
  have hstart : formatTogether mode paths (step.observed ()) schedule ⟨machine, notes⟩ =
      (Batch.start paths step).observed.run mode schedule
        ⟨begun mode paths step machine, notes⟩ := by
    rw [Batch.observed_start]
    rfl
  rw [hstart, Batch.run_observed]
  rfl

theorem collected_formatTogether (mode : Mode) (paths : List Path) (step : Step Machine)
    (schedule : List Nat) (machine : Machine) :
    Observed.collected (formatTogether mode paths (step.observed ()) schedule) machine =
      (((formatTogether mode paths step schedule machine).1.observed,
        notesTogether mode paths step schedule machine),
        (formatTogether mode paths step schedule machine).2) := by
  rw [Observed.collected, formatTogether_observed]
  rfl

theorem collected_formatFiles (mode : Mode) (paths : List Path) (step : Step Machine)
    (machine : Machine) :
    Observed.collected (formatFiles mode paths (step.observed ())) machine =
      (let ((reports, made), next) := formatFiles mode paths step machine
      (((reports, made.observed ()), notesTogether mode paths step
        (machine.schedule ++ roundRobin paths.length 7) machine), next)) := by
  have hwatched := formatTogether_observed mode paths step
    (machine.schedule ++ roundRobin paths.length 7) machine []
  rw [formatFiles_eq]
  rcases hplain : formatTogether mode paths step
    (machine.schedule ++ roundRobin paths.length 7) machine with ⟨batch, next⟩
  rw [hplain] at hwatched
  have hrun : formatFiles mode paths (step.observed ()) ⟨machine, []⟩ =
      ((batch.observed.reports, batch.observed.cell.step), ⟨next, notesTogether mode paths step
        (machine.schedule ++ roundRobin paths.length 7) machine⟩) :=
    congrArg (fun run : Batch Watching × Watching =>
      ((run.1.reports, run.1.cell.step), run.2)) hwatched
  rw [Observed.collected, hrun, Batch.reports_observed]
  rfl

end CodeFormatting.Files
