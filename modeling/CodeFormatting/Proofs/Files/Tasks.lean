import CodeFormatting.Files.Batch
import CodeFormatting.Proofs.Files.Single
namespace CodeFormatting.Files

/-! What an action can do. -/

open HasMachine (onMachine_eq)

variable {mode : Mode} {path : Path} {cell after : Cell Machine} {stage later : Stage Machine}
  {machine next : Machine} {tasks : List (Task Machine)} {index : Nat}

inductive Acts (mode : Mode) (path : Path) :
    Stage Machine → Cell Machine → Machine → Stage Machine → Cell Machine → Machine → Prop
  | unreadable {cell : Cell Machine} {machine : Machine} {error : IoError}
      (hread : machine.readText path = .error error) :
      Acts mode path .arriving cell machine (.finished (.error (.read path error))) cell machine
  | read {cell : Cell Machine} {machine : Machine} {content : String}
      (hread : machine.readText path = .ok content) :
      Acts mode path .arriving cell machine (.holding content .waiting) cell machine
  | borrow {content : String} {cell : Cell Machine} {machine : Machine}
      {outcome : Except StepError (Engine Machine)} (hsettled : cell.step.outcome = some outcome) :
      Acts mode path (.holding content .waiting) cell machine
        (.holding content (.resolved outcome)) cell machine
  | wait {content : String} {cell : Cell Machine} {machine : Machine}
      (hfresh : cell.step.outcome = none) (hclaimed : cell.claimed = true) :
      Acts mode path (.holding content .waiting) cell machine
        (.holding content .waiting) cell machine
  | claim {content : String} {cell : Cell Machine} {machine : Machine}
      (hfresh : cell.step.outcome = none) (hfree : cell.claimed = false) :
      Acts mode path (.holding content .waiting) cell machine
        (.holding content .initializing) { cell with claimed := true } machine
  | prepare {content : String} {cell : Cell Machine} {machine next : Machine}
      {outcome : Except StepError (Engine Machine)}
      (hinitializer : cell.step.initializer machine = (outcome, next)) :
      Acts mode path (.holding content .initializing) cell machine
        (.holding content (.resolved outcome)) ⟨cell.step.settled outcome, false⟩ next
  | reject {content : String} {cell : Cell Machine} {machine next : Machine}
      {outcome : Except StepError (Engine Machine)} {error : FormatError}
      (happlied : Step.applied outcome content machine = (.error error, next)) :
      Acts mode path (.holding content (.resolved outcome)) cell machine
        (.finished (.error (.format path error))) cell next
  | format {content text : String} {cell : Cell Machine} {machine next : Machine}
      {outcome : Except StepError (Engine Machine)}
      (happlied : Step.applied outcome content machine = (.ok text, next)) :
      Acts mode path (.holding content (.resolved outcome)) cell machine
        (.formatted content text) cell next
  | keep {content : String} {cell : Cell Machine} {machine : Machine} :
      Acts mode path (.formatted content content) cell machine (.finished (.ok .unchanged)) cell
        (machine.record (.logged
          ⟨.trace, filesTarget, path.text ++ " is already formatted"⟩))
  | report {content text : String} {cell : Cell Machine} {machine : Machine}
      (hchanged : text ≠ content) (hmode : mode = .check) :
      Acts mode path (.formatted content text) cell machine
        (.finished (.ok .wouldFormat)) cell machine
  | refuse {content text : String} {cell : Cell Machine} {machine : Machine} {error : IoError}
      (hchanged : text ≠ content) (hmode : mode = .write)
      (hopen : machine.files.openEmpty machine.location path = .error error) :
      Acts mode path (.formatted content text) cell machine
        (.finished (.error (.write path error))) cell machine
  | empty {content text : String} {cell : Cell Machine} {machine : Machine} {location : Location}
      {files : FileSystem} (hchanged : text ≠ content) (hmode : mode = .write)
      (hopen : machine.files.openEmpty machine.location path = .ok (location, files)) :
      Acts mode path (.formatted content text) cell machine
        (.filling location text) cell { machine with files }
  | cut {location : Location} {text : String} {cell : Cell Machine} {machine : Machine}
      {files : FileSystem} {error : IoError}
      (hfill : machine.files.fill location text.toUTF8 = (files, .error error)) :
      Acts mode path (.filling location text) cell machine
        (.finished (.error (.write path error))) cell { machine with files }
  | fill {location : Location} {text : String} {cell : Cell Machine} {machine : Machine}
      {files : FileSystem}
      (hfill : machine.files.fill location text.toUTF8 = (files, .ok ())) :
      Acts mode path (.filling location text) cell machine (.finished (.ok .formatted)) cell
        (Machine.record { machine with files } (.logged
          ⟨.debug, filesTarget, "Formatted " ++ path.text⟩))
  | rest {outcome : Except FileError Outcome} {cell : Cell Machine} {machine : Machine} :
      Acts mode path (.finished outcome) cell machine (.finished outcome) cell machine

theorem acts_act (mode : Mode) (path : Path) (stage : Stage Machine) (cell : Cell Machine)
    (machine : Machine) :
    Acts mode path stage cell machine (stage.act mode path cell machine).1.1
      (stage.act mode path cell machine).1.2 (stage.act mode path cell machine).2 := by
  cases stage with
  | arriving =>
      simp only [Stage.act, onMachine_eq, bind, StateT.bind, get, getThe, MonadStateOf.get,
        StateT.get, pure]
      cases hread : machine.readText path with
      | error error => exact .unreadable hread
      | ok content => exact .read hread
  | holding content use =>
      cases use with
      | waiting =>
          simp only [Stage.act]
          cases hsettled : cell.step.outcome with
          | some outcome => exact .borrow hsettled
          | none =>
              cases hclaimed : cell.claimed with
              | true => exact .wait hsettled hclaimed
              | false => exact .claim hsettled hclaimed
      | initializing =>
          simp only [Stage.act, bind, StateT.bind]
          exact .prepare rfl
      | resolved outcome =>
          simp only [Stage.act, bind, StateT.bind]
          rcases happlied : Step.applied outcome content machine with ⟨error | text, next⟩
          · exact .reject happlied
          · exact .format happlied
  | formatted content text =>
      simp only [Stage.act]
      by_cases hchanged : text = content
      · subst hchanged
        rw [if_pos rfl]
        exact .keep
      · rw [if_neg hchanged]
        cases mode with
        | check => exact .report hchanged rfl
        | write =>
            simp only [onMachine_eq, bind, StateT.bind, openFile]
            rcases hopen : machine.files.openEmpty machine.location path with
              error | ⟨location, files⟩
            · exact .refuse hchanged rfl hopen
            · exact .empty hchanged rfl hopen
  | filling location text =>
      simp only [Stage.act, onMachine_eq, bind, StateT.bind, fillFile]
      rcases hfill : machine.files.fill location text.toUTF8 with ⟨files, error | _⟩
      · exact .cut hfill
      · exact .fill hfill
  | finished outcome => exact .rest

theorem Acts.act_eq (hacts : Acts mode path stage cell machine later after next) :
    stage.act mode path cell machine = ((later, after), next) := by
  cases hacts with
  | unreadable hread =>
      simp only [Stage.act, onMachine_eq, bind, StateT.bind, get, getThe, MonadStateOf.get,
        StateT.get, pure, hread]
      rfl
  | read hread =>
      simp only [Stage.act, onMachine_eq, bind, StateT.bind, get, getThe, MonadStateOf.get,
        StateT.get, pure, hread]
      rfl
  | borrow hsettled =>
      simp only [Stage.act, hsettled]
      rfl
  | wait hfresh hclaimed =>
      simp only [Stage.act, hfresh, hclaimed]
      rfl
  | claim hfresh hfree =>
      simp only [Stage.act, hfresh, hfree]
      rfl
  | prepare hinitializer =>
      simp only [Stage.act, bind, StateT.bind, hinitializer]
      rfl
  | reject happlied =>
      simp only [Stage.act, bind, StateT.bind, happlied]
      rfl
  | format happlied =>
      simp only [Stage.act, bind, StateT.bind, happlied]
      rfl
  | keep =>
      simp only [Stage.act]
      rfl
  | report hchanged hmode =>
      simp only [Stage.act, if_neg hchanged, hmode]
      rfl
  | refuse hchanged hmode hopen =>
      simp only [Stage.act, if_neg hchanged, hmode, onMachine_eq, bind, StateT.bind, openFile,
        hopen]
      rfl
  | empty hchanged hmode hopen =>
      simp only [Stage.act, if_neg hchanged, hmode, onMachine_eq, bind, StateT.bind, openFile,
        hopen]
      rfl
  | cut hfill =>
      simp only [Stage.act, onMachine_eq, bind, StateT.bind, fillFile, hfill]
      rfl
  | fill hfill =>
      simp only [Stage.act, onMachine_eq, bind, StateT.bind, fillFile, hfill]
      rfl
  | rest => rfl

theorem forall_mem_set {Item : Type} {items : List Item} {Holds : Item → Prop}
    (hitems : ∀ item ∈ items, Holds item) {new : Item} (hnew : Holds new) (index : Nat) :
    ∀ item ∈ items.set index new, Holds item := by
  intro item hmem
  rcases List.mem_or_eq_of_mem_set hmem with hmem | rfl
  · exact hitems item hmem
  · exact hnew

theorem set_of_getElem? {Item : Type} {items : List Item} {item : Item}
    (hindex : items[index]? = some item) : items.set index item = items := by
  obtain ⟨hbound, rfl⟩ := List.getElem?_eq_some_iff.mp hindex
  exact List.set_getElem_self hbound

namespace Batch

section

variable {World : Type} [HasMachine World] {cell after : Cell World} {stage later : Stage World}
  {world next : World} {tasks : List (Task World)} {batch : Batch World}

theorem advance_of_act (hindex : tasks[index]? = some ⟨path, stage⟩)
    (hact : stage.act mode path cell world = ((later, after), next)) :
    advance mode ⟨cell, tasks⟩ index world =
      (⟨after, tasks.set index ⟨path, later⟩⟩, next) := by
  simp only [advance, hindex, bind, StateT.bind, hact]
  rfl

theorem advance_of_absent (habsent : batch.tasks[index]? = none) (world : World) :
    batch.advance mode index world = (batch, world) := by
  simp only [advance, habsent]
  rfl

theorem run_cons (mode : Mode) (batch : Batch World) (index : Nat) (rest : List Nat)
    (world : World) :
    batch.run mode (index :: rest) world =
      (batch.advance mode index world).1.run mode rest (batch.advance mode index world).2 :=
  rfl

theorem run_append (mode : Mode) (batch : Batch World) (schedule rest : List Nat)
    (world : World) :
    batch.run mode (schedule ++ rest) world =
      (batch.run mode schedule world).1.run mode rest (batch.run mode schedule world).2 := by
  induction schedule generalizing batch world with
  | nil => rfl
  | cons index schedule induction => exact induction _ _

end

/-- What every action preserves, every run preserves. -/
theorem run_induction (Holds : Batch Machine → Machine → Prop)
    (hact : ∀ {cell after : Cell Machine} {tasks : List (Task Machine)} {index : Nat} {path : Path}
      {stage later : Stage Machine} {machine next : Machine}, Holds ⟨cell, tasks⟩ machine →
      tasks[index]? = some ⟨path, stage⟩ → Acts mode path stage cell machine later after next →
      Holds ⟨after, tasks.set index ⟨path, later⟩⟩ next)
    {batch : Batch Machine} {machine : Machine} (hstart : Holds batch machine)
    (schedule : List Nat) :
    Holds (batch.run mode schedule machine).1 (batch.run mode schedule machine).2 := by
  induction schedule generalizing batch machine with
  | nil => exact hstart
  | cons index rest induction =>
      rw [run_cons]
      refine induction ?_
      rcases hindex : batch.tasks[index]? with _ | ⟨path, stage⟩
      · rw [advance_of_absent hindex]
        exact hstart
      · rw [advance_of_act hindex rfl]
        exact hact hstart hindex (acts_act mode path stage batch.cell machine)

theorem paths_run (mode : Mode) (batch : Batch Machine) (schedule : List Nat) (machine : Machine) :
    (batch.run mode schedule machine).1.tasks.map Task.path = batch.tasks.map Task.path := by
  refine run_induction (fun later _ => later.tasks.map Task.path = batch.tasks.map Task.path)
    ?_ rfl schedule
  intro cell after tasks index path stage later machine next hpaths hindex _
  rw [List.map_set, ← hpaths]
  exact set_of_getElem? (by rw [List.getElem?_map, hindex]; rfl)

end Batch

/-- The machine once a run over some files has been announced. -/
def begun (mode : Mode) (paths : List Path) (step : Step Machine) (machine : Machine) : Machine :=
  machine.record (.logged ⟨.debug, filesTarget, runningText mode step paths⟩)

theorem formatTogether_eq (mode : Mode) (paths : List Path) (step : Step Machine)
    (schedule : List Nat) (machine : Machine) :
    formatTogether mode paths step schedule machine =
      (Batch.start paths step).run mode schedule (begun mode paths step machine) :=
  rfl

/-! Tasks that follow one another, each of them as soon as the last one has ended. -/

/-- Some actions of one task with nothing between them. -/
def Stage.actFor (mode : Mode) (path : Path) :
    Nat → Stage Machine × Cell Machine → Action (Stage Machine × Cell Machine)
  | 0, state => return state
  | count + 1, (stage, cell) => do
    actFor mode path count (← stage.act mode path cell)

theorem Batch.run_replicate (hindex : tasks[index]? = some ⟨path, stage⟩) (count : Nat) :
    run mode ⟨cell, tasks⟩ (List.replicate count index) machine =
      (let ((later, after), next) := Stage.actFor mode path count (stage, cell) machine
      (⟨after, tasks.set index ⟨path, later⟩⟩, next)) := by
  induction count generalizing tasks stage cell machine with
  | zero =>
      have hkept := set_of_getElem? hindex
      exact congrArg (fun kept => ((⟨cell, kept⟩ : Batch Machine), machine)) hkept.symm
  | succ count induction =>
      have hbound := (List.getElem?_eq_some_iff.mp hindex).1
      rcases hact : stage.act mode path cell machine with ⟨⟨later, after⟩, next⟩
      rw [List.replicate_succ, run_cons, advance_of_act hindex hact,
        induction (List.getElem?_set_self hbound)]
      simp only [List.set_set, Stage.actFor, bind, StateT.bind, hact]

theorem actFor_of_acts (hacts : Acts mode path stage cell machine later after next)
    (count : Nat) :
    Stage.actFor mode path (count + 1) (stage, cell) machine =
      Stage.actFor mode path count (later, after) next := by
  simp only [Stage.actFor, bind, StateT.bind, hacts.act_eq]

theorem actFor_finished (count : Nat) (outcome : Except FileError Outcome) (cell : Cell Machine)
    (machine : Machine) :
    Stage.actFor mode path count (.finished outcome, cell) machine =
      ((.finished outcome, cell), machine) := by
  induction count with
  | zero => rfl
  | succ count induction => rw [actFor_of_acts .rest, induction]

theorem actFor_formatted (count : Nat) (content text : String) (cell : Cell Machine)
    (machine : Machine) :
    Stage.actFor mode path (count + 2) (.formatted content text, cell) machine =
      (let (outcome, next) := settle mode path content text machine
      ((.finished outcome, cell), next)) := by
  by_cases hchanged : text = content
  · subst hchanged
    rw [actFor_of_acts .keep, actFor_finished, settle_of_equal]
  · cases mode with
    | check =>
        rw [actFor_of_acts (.report hchanged rfl), actFor_finished, settle_of_check hchanged]
    | write =>
        rcases hopen : machine.files.openEmpty machine.location path with
          error | ⟨location, files⟩
        · rw [actFor_of_acts (.refuse hchanged rfl hopen), actFor_finished,
            settle_of_refused hchanged hopen]
        · rw [actFor_of_acts (.empty hchanged rfl hopen)]
          rcases hfill : files.fill location text.toUTF8 with ⟨filled, error | _⟩
          · rw [actFor_of_acts (.cut hfill), actFor_finished, settle_of_cut hchanged hopen hfill]
          · rw [actFor_of_acts (.fill hfill), actFor_finished,
              settle_of_filled hchanged hopen hfill]

theorem actFor_resolved (count : Nat) (content : String)
    (outcome : Except StepError (Engine Machine)) (cell : Cell Machine) (machine : Machine) :
    Stage.actFor mode path (count + 3) (.holding content (.resolved outcome), cell) machine =
      (match Step.applied outcome content machine with
      | (.error error, next) => ((.finished (.error (.format path error)), cell), next)
      | (.ok text, next) =>
        let (outcome, last) := settle mode path content text next
        ((.finished outcome, cell), last)) := by
  rcases happlied : Step.applied outcome content machine with ⟨error | text, next⟩
  · rw [actFor_of_acts (.reject happlied), actFor_finished]
  · rw [actFor_of_acts (.format happlied), actFor_formatted]

/-- A task that nothing interrupts formats its file. It needs six actions at most. -/
theorem actFor_arriving (count : Nat) (mode : Mode) (path : Path) (step : Step Machine)
    (machine : Machine) :
    Stage.actFor mode path (count + 6) (.arriving, ⟨step, false⟩) machine =
      (let ((outcome, step), next) := formatFile mode path step machine
      ((.finished outcome, ⟨step, false⟩), next)) := by
  cases hread : machine.readText path with
  | error error =>
      rw [actFor_of_acts (.unreadable hread), actFor_finished, formatFile_of_unreadable hread]
  | ok content =>
      rw [actFor_of_acts (.read hread)]
      cases hsettled : step.outcome with
      | some outcome =>
          have hformat := Step.format_of_outcome hsettled content machine
          rw [actFor_of_acts (.borrow hsettled), actFor_resolved]
          rcases happlied : Step.applied outcome content machine with ⟨error | text, next⟩
          · rw [happlied] at hformat
            rw [formatFile_of_rejected hread hformat]
          · rw [happlied] at hformat
            rw [formatFile_of_formatted hread hformat]
            rfl
      | none =>
          rcases hinitializer : step.initializer machine with ⟨outcome, made⟩
          have hformat := Step.format_of_fresh hsettled hinitializer content
          rw [actFor_of_acts (.claim hsettled rfl), actFor_of_acts (.prepare hinitializer),
            actFor_resolved]
          rcases happlied : Step.applied outcome content made with ⟨error | text, next⟩
          · rw [happlied] at hformat
            rw [formatFile_of_rejected hread hformat]
          · rw [happlied] at hformat
            rw [formatFile_of_formatted hread hformat]
            rfl

theorem actFor_six (mode : Mode) (path : Path) (step : Step Machine) (machine : Machine) :
    Stage.actFor mode path 6 (.arriving, ⟨step, false⟩) machine =
      (let ((outcome, step), next) := formatFile mode path step machine
      ((.finished outcome, ⟨step, false⟩), next)) :=
  actFor_arriving 0 mode path step machine

/-- The task that a report belongs to. -/
def Report.task (report : Report) : Task Machine :=
  ⟨report.path, .finished report.outcome⟩

theorem Task.report?_eq_some_iff {task : Task Machine} {report : Report} :
    task.report? = some report ↔ task = report.task := by
  rcases task with ⟨path, stage⟩
  rcases report with ⟨named, outcome⟩
  cases stage <;> simp [Task.report?, Report.task]

theorem reportsOf?_eq_some_iff {reports : List Report} :
    reportsOf? tasks = some reports ↔ tasks = reports.map Report.task := by
  induction tasks generalizing reports with
  | nil => cases reports <;> simp [reportsOf?]
  | cons task rest induction =>
      cases reports with
      | nil =>
          simp only [reportsOf?, List.map_nil, reduceCtorEq, iff_false]
          split <;> simp
      | cons report reports =>
          rw [List.map_cons, List.cons.injEq, ← Task.report?_eq_some_iff, ← induction, reportsOf?]
          cases task.report? <;> cases reportsOf? rest <;> simp

theorem Batch.reports?_eq_some_iff {batch : Batch Machine} {reports : List Report} :
    batch.reports? = some reports ↔ batch.tasks = reports.map Report.task :=
  reportsOf?_eq_some_iff

/-- Formats one file after another. -/
def formatEach (mode : Mode) :
    List Path → Step Machine → Action (List Report × Step Machine)
  | [], step => return ([], step)
  | path :: rest, step => do
    let (outcome, step) ← formatFile mode path step
    let (reports, step) ← formatEach mode rest step
    return (⟨path, outcome⟩ :: reports, step)

theorem run_formatEach (mode : Mode) (ended : List (Task Machine)) (paths : List Path)
    (step : Step Machine) (machine : Machine) :
    Batch.run mode ⟨⟨step, false⟩, ended ++ paths.map (⟨·, .arriving⟩)⟩
        ((List.range' ended.length paths.length).flatMap (List.replicate 6)) machine =
      (let ((reports, after), next) := formatEach mode paths step machine
      (⟨⟨after, false⟩, ended ++ reports.map Report.task⟩, next)) := by
  induction paths generalizing ended step machine with
  | nil => rfl
  | cons path rest induction =>
      have hindex : (ended ++ (path :: rest).map
          (⟨·, .arriving⟩ : Path → Task Machine))[ended.length]? = some ⟨path, .arriving⟩ := by simp
      rcases hfile : formatFile mode path step machine with ⟨⟨outcome, after⟩, next⟩
      rw [List.length_cons, List.range'_succ, List.flatMap_cons, Batch.run_append,
        Batch.run_replicate hindex, actFor_six, hfile]
      have hended := induction (ended ++ [⟨path, .finished outcome⟩]) after next
      simp only [List.length_append, List.length_singleton, List.append_assoc,
        List.singleton_append] at hended
      simp only [List.map_cons, List.set_append_right, Nat.le_refl, Nat.sub_self,
        List.set_cons_zero, formatEach, bind, StateT.bind, hfile, hended]
      rfl

/-- The schedule under which each task begins after the one before it has ended. -/
def inTurn (count : Nat) : List Nat :=
  (List.range count).flatMap (List.replicate 6)

theorem formatTogether_inTurn (mode : Mode) (paths : List Path) (step : Step Machine)
    (machine : Machine) :
    formatTogether mode paths step (inTurn paths.length) machine =
      (let ((reports, after), next) := formatEach mode paths step (begun mode paths step machine)
      (⟨⟨after, false⟩, reports.map Report.task⟩, next)) := by
  rw [formatTogether_eq, inTurn, List.range_eq_range']
  exact run_formatEach mode [] paths step _

end CodeFormatting.Files
