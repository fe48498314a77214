import CodeFormatting.Proofs.Files.Observed
import CodeFormatting.Proofs.Files.Pointwise
namespace CodeFormatting

/-- A step whose initializer fails and does nothing else. -/
def Step.failing (cause : StepError) : Step Machine where
  name := "failing"
  key := ""
  initializer := fun machine => (.error cause, machine)
  outcome := none

namespace Step

variable {World : Type} {step : Step World} {outcome : Except StepError (Engine World)}

def withInitializer (step : Step World) (initializer : Initializer World) : Step World :=
  { step with initializer }

theorem resolve_of_outcome (hsettled : step.outcome = some outcome) (world : World) :
    step.resolve world = ((outcome, step), world) := by
  simp only [resolve, hsettled]
  rfl

theorem resolve_of_fresh (hfresh : step.outcome = none) (world : World) :
    step.resolve world =
      (((step.initializer world).1, step.settled (step.initializer world).1),
        (step.initializer world).2) := by
  simp only [resolve, hfresh]
  rfl

end Step

namespace Files

/-! How often the initializer of a shared step is run. Until a task claims it nothing changes,
so it is run on the machine on which the first task begins, and only if a file can be read
there. Once it has failed, no file is formatted any more. -/

variable {mode : Mode} {path : Path} {paths : List Path} {step : Step Machine}
  {cell after : Cell Machine} {stage later : Stage Machine} {tasks : List (Task Machine)}
  {index : Nat} {machine next origin : Machine} {cause : StepError}
  {outcome : Except StepError (Engine Machine)}
  {outcomes : List (Except StepError (Engine Machine))} {batch : Batch Machine}
  {reports : List Report} {schedule : List Nat}

/-! Where no answer is counted the initializer is not consulted: with any other one the same
would have happened. -/

def Cell.withInitializer (cell : Cell Machine) (initializer : Initializer Machine) : Cell Machine :=
  { cell with step := cell.step.withInitializer initializer }

def Batch.withInitializer (batch : Batch Machine) (initializer : Initializer Machine) :
    Batch Machine :=
  { batch with cell := batch.cell.withInitializer initializer }

theorem Acts.withInitializer (hacts : Acts mode path stage cell machine later after next)
    (hunused : stage.isInitializing = false) (initializer : Initializer Machine) :
    Acts mode path stage (cell.withInitializer initializer) machine later
      (after.withInitializer initializer) next := by
  cases hacts with
  | unreadable hread => exact .unreadable hread
  | read hread => exact .read hread
  | borrow hsettled => exact .borrow hsettled
  | wait hfresh hclaimed => exact .wait hfresh hclaimed
  | claim hfresh hfree => exact .claim hfresh hfree
  | prepare hinitializer => cases hunused
  | reject happlied => exact .reject happlied
  | format happlied => exact .format happlied
  | keep => exact .keep
  | report hchanged hmode => exact .report hchanged hmode
  | refuse hchanged hmode hopen => exact .refuse hchanged hmode hopen
  | empty hchanged hmode hopen => exact .empty hchanged hmode hopen
  | cut hfill => exact .cut hfill
  | fill hfill => exact .fill hfill
  | rest => exact .rest

theorem Batch.run_withInitializer (batch : Batch Machine) (machine : Machine)
    (hunused : initializations (batch.notes mode schedule machine) = [])
    (initializer : Initializer Machine) :
    (batch.withInitializer initializer).run mode schedule machine =
      ((batch.run mode schedule machine).1.withInitializer initializer,
        (batch.run mode schedule machine).2) := by
  induction schedule generalizing batch machine with
  | nil => rfl
  | cons index rest induction =>
      rw [Batch.initializations_cons, List.append_eq_nil_iff] at hunused
      obtain ⟨hnow, hlater⟩ := hunused
      rw [Batch.run_cons, Batch.run_cons]
      rcases hindex : batch.tasks[index]? with _ | ⟨path, stage⟩
      · have hother : (batch.withInitializer initializer).tasks[index]? = none := hindex
        rw [Batch.advance_of_absent hindex] at hlater ⊢
        rw [Batch.advance_of_absent hother]
        exact induction batch machine hlater
      · have hidle : stage.isInitializing = false := by
          cases hinitializing : stage.isInitializing with
          | false => rfl
          | true => simp [hindex, Task.initialization?, hinitializing] at hnow
        have hacts := acts_act mode path stage batch.cell machine
        rw [Batch.advance_of_act hindex rfl] at hlater ⊢
        rw [Batch.withInitializer,
          Batch.advance_of_act hindex (hacts.withInitializer hidle initializer).act_eq]
        exact induction _ _ hlater

/-! The course of a run. -/

/-- Where a task can be before the step has an outcome. -/
inductive Early (origin : Machine) (path : Path) : Stage Machine → Prop
  | arriving : Early origin path .arriving
  | unreadable {error : IoError} (hread : origin.readText path = .error error) :
      Early origin path (.finished (.error (.read path error)))
  | waiting {content : String} (hread : origin.readText path = .ok content) :
      Early origin path (.holding content .waiting)
  | initializing {content : String} (hread : origin.readText path = .ok content) :
      Early origin path (.holding content .initializing)

def AllEarly (origin : Machine) (tasks : List (Task Machine)) : Prop :=
  ∀ task ∈ tasks, Early origin task.path task.stage

/-- No task runs the initializer, unless it is the one in this place. -/
def IdleBut (place : Option Nat) (tasks : List (Task Machine)) : Prop :=
  ∀ index task, tasks[index]? = some task → task.stage.isInitializing = true →
    place = some index

/-- How far a batch has come with its step, and what the initializer has answered so far. -/
inductive Course (step : Step Machine) (origin : Machine) :
    List (Except StepError (Engine Machine)) → Batch Machine → Machine → Prop
  | settled {outcome : Except StepError (Engine Machine)} {tasks : List (Task Machine)}
      {machine : Machine} (hsettled : step.outcome = some outcome) (hidle : IdleBut none tasks) :
      Course step origin [] ⟨⟨step, false⟩, tasks⟩ machine
  | fresh {tasks : List (Task Machine)} (hfresh : step.outcome = none) (hidle : IdleBut none tasks)
      (hearly : AllEarly origin tasks) : Course step origin [] ⟨⟨step, false⟩, tasks⟩ origin
  | claimed {tasks : List (Task Machine)} {place : Nat} {path : Path} {content : String}
      (hfresh : step.outcome = none)
      (hplace : tasks[place]? = some ⟨path, .holding content .initializing⟩)
      (hidle : IdleBut (some place) tasks) (hearly : AllEarly origin tasks) :
      Course step origin [] ⟨⟨step, true⟩, tasks⟩ origin
  | initialized {tasks : List (Task Machine)} {machine : Machine} (hfresh : step.outcome = none)
      (hreadable : ∃ path ∈ tasks.map Task.path, ∃ content, origin.readText path = .ok content)
      (hidle : IdleBut none tasks) :
      Course step origin [(step.initializer origin).1]
        ⟨⟨step.settled (step.initializer origin).1, false⟩, tasks⟩ machine

theorem AllEarly.set (hearly : AllEarly origin tasks) (hlater : Early origin path later)
    (index : Nat) : AllEarly origin (tasks.set index ⟨path, later⟩) :=
  forall_mem_set hearly hlater index

theorem IdleBut.set {before now : Option Nat} (hidle : IdleBut before tasks)
    (hothers : ∀ other, other ≠ index → before = some other → now = some other)
    (hlater : later.isInitializing = true → now = some index) (path : Path) :
    IdleBut now (tasks.set index ⟨path, later⟩) := by
  intro other task hother hinitializing
  by_cases hsame : index = other
  · subst hsame
    rw [List.getElem?_set] at hother
    split at hother
    · split at hother
      · cases hother
        exact hlater hinitializing
      · cases hother
    · next hne => exact absurd rfl hne
  · rw [List.getElem?_set_ne hsame] at hother
    exact hothers other (Ne.symm hsame) (hidle other task hother hinitializing)

/-- A task that does not run the initializer goes on to where it does not either. -/
theorem IdleBut.keep {place : Option Nat} (hidle : IdleBut place tasks)
    (hlater : later.isInitializing = false) (index : Nat) (path : Path) :
    IdleBut place (tasks.set index ⟨path, later⟩) := by
  refine hidle.set (fun _ _ => id) (fun hinitializing => ?_) path
  cases hinitializing.symm.trans hlater

theorem paths_set (hindex : tasks[index]? = some ⟨path, stage⟩) (later : Stage Machine) :
    (tasks.set index ⟨path, later⟩).map Task.path = tasks.map Task.path := by
  rw [List.map_set]
  exact set_of_getElem? (by rw [List.getElem?_map, hindex]; rfl)

theorem Course.act (hcourse : Course step origin outcomes ⟨cell, tasks⟩ machine)
    (hindex : tasks[index]? = some ⟨path, stage⟩)
    (hacts : Acts mode path stage cell machine later after next) :
    Course step origin
      (outcomes ++ (Task.initialization? cell machine ⟨path, stage⟩).toList)
      ⟨after, tasks.set index ⟨path, later⟩⟩ next := by
  cases hcourse with
  | settled hsettled hidle =>
      cases hacts with
      | claim hfresh hfree =>
          rw [hsettled] at hfresh
          cases hfresh
      | prepare hinitializer => cases hidle index _ hindex rfl
      | wait hfresh hclaimed => cases hclaimed
      | _ => exact .settled hsettled (hidle.keep rfl index path)
  | fresh hfresh hidle hearly =>
      have hstage := hearly _ (List.mem_of_getElem? hindex)
      cases hacts with
      | unreadable hread =>
          exact .fresh hfresh (hidle.keep rfl index path) (hearly.set (.unreadable hread) index)
      | read hread =>
          exact .fresh hfresh (hidle.keep rfl index path) (hearly.set (.waiting hread) index)
      | borrow hsettled =>
          rw [hfresh] at hsettled
          cases hsettled
      | wait hfresh hclaimed => cases hclaimed
      | claim hfresh hfree =>
          cases hstage with
          | waiting hread =>
              have hbound := (List.getElem?_eq_some_iff.mp hindex).1
              exact .claimed hfresh (List.getElem?_set_self hbound)
                (hidle.set nofun (fun _ => rfl) path) (hearly.set (.initializing hread) index)
      | prepare hinitializer => cases hidle index _ hindex rfl
      | rest => exact .fresh hfresh (hidle.keep rfl index path) (hearly.set hstage index)
      | _ => cases hstage
  | @claimed _ place _ _ hfresh hplace hidle hearly =>
      have hstage := hearly _ (List.mem_of_getElem? hindex)
      -- as long as other tasks act, the one that has claimed the initializer is about to run it
      have hstays {reached : Stage Machine} (hreached : Early machine path reached)
          (hother : stage.isInitializing = false) (hidler : reached.isInitializing = false) :
          Course step machine [] ⟨⟨step, true⟩, tasks.set index ⟨path, reached⟩⟩ machine := by
        refine .claimed hfresh ((List.getElem?_set_ne ?_).trans hplace)
          (hidle.keep hidler index path) (hearly.set hreached index)
        rintro rfl
        rw [hindex] at hplace
        cases hplace
        cases hother
      cases hacts with
      | unreadable hread => exact hstays (.unreadable hread) rfl rfl
      | read hread => exact hstays (.waiting hread) rfl rfl
      | borrow hsettled =>
          rw [hfresh] at hsettled
          cases hsettled
      | wait hfresh hclaimed => exact hstays hstage rfl rfl
      | claim hfresh hfree => cases hfree
      | prepare hinitializer =>
          obtain rfl := Option.some.inj (hidle index _ hindex rfl)
          obtain ⟨rfl, rfl⟩ := Prod.mk.inj hinitializer
          cases hstage with
          | initializing hread =>
              refine .initialized hfresh ⟨path, ?_, _, hread⟩ (hidle.set ?_ ?_ path)
              · rw [paths_set hindex]
                exact List.mem_map.mpr ⟨_, List.mem_of_getElem? hindex, rfl⟩
              · intro other hne hsame
                exact absurd (Option.some.inj hsame).symm hne
              · nofun
      | rest => exact hstays hstage rfl rfl
      | _ => cases hstage
  | initialized hfresh hreadable hidle =>
      cases hacts with
      | claim hfresh hfree => cases hfresh
      | prepare hinitializer => cases hidle index _ hindex rfl
      | wait hfresh hclaimed => cases hclaimed
      | _ => exact .initialized hfresh (by rwa [paths_set hindex]) (hidle.keep rfl index path)

theorem arriving_of_mem_start {task : Task Machine} (hmem : task ∈ (Batch.start paths step).tasks) :
    task.stage = .arriving := by
  obtain ⟨path, -, rfl⟩ := List.mem_map.mp hmem
  rfl

theorem allEarly_start (paths : List Path) (step : Step Machine) (origin : Machine) :
    AllEarly origin (Batch.start paths step).tasks := by
  intro task hmem
  rw [arriving_of_mem_start hmem]
  exact .arriving

theorem course_start (paths : List Path) (step : Step Machine) (origin : Machine) :
    Course step origin [] (Batch.start paths step) origin := by
  have hidle : IdleBut none (Batch.start paths step).tasks := by
    intro index task hindex hinitializing
    rw [arriving_of_mem_start (List.mem_of_getElem? hindex)] at hinitializing
    cases hinitializing
  cases houtcome : step.outcome with
  | some outcome => exact .settled houtcome hidle
  | none => exact .fresh houtcome hidle (allEarly_start paths step origin)

/-- What every action in the course of a run preserves, the run preserves. -/
theorem Course.run (Holds : List (Task Machine) → Machine → Prop)
    (hact : ∀ {outcomes : List (Except StepError (Engine Machine))} {cell after : Cell Machine}
      {tasks : List (Task Machine)} {index : Nat} {path : Path} {stage later : Stage Machine}
      {machine next : Machine}, Course step origin outcomes ⟨cell, tasks⟩ machine →
      Holds tasks machine → tasks[index]? = some ⟨path, stage⟩ →
      Acts mode path stage cell machine later after next →
      Holds (tasks.set index ⟨path, later⟩) next)
    {batch : Batch Machine} (hcourse : Course step origin outcomes batch machine)
    (hstart : Holds batch.tasks machine) (schedule : List Nat) :
    Course step origin (outcomes ++ initializations (batch.notes mode schedule machine))
        (batch.run mode schedule machine).1 (batch.run mode schedule machine).2 ∧
      Holds (batch.run mode schedule machine).1.tasks (batch.run mode schedule machine).2 := by
  induction schedule generalizing outcomes batch machine with
  | nil => exact ⟨(List.append_nil outcomes).symm ▸ hcourse, hstart⟩
  | cons index rest induction =>
      rw [Batch.run_cons, Batch.initializations_cons, ← List.append_assoc]
      rcases hindex : batch.tasks[index]? with _ | ⟨path, stage⟩
      · rw [Batch.advance_of_absent hindex]
        exact induction (by simpa using hcourse) hstart
      · have hacts := acts_act mode path stage batch.cell machine
        rw [Batch.advance_of_act hindex rfl]
        exact induction (hcourse.act hindex hacts) (hact hcourse hstart hindex hacts)

/-! A run whose step cannot be initialized. -/

/-- Where a task can be if the step fails. -/
inductive Spoiled (origin : Machine) (cause : StepError) (path : Path) : Stage Machine → Prop
  | early {stage : Stage Machine} (hearly : Early origin path stage) :
      Spoiled origin cause path stage
  | resolved {content : String} (hread : origin.readText path = .ok content) :
      Spoiled origin cause path (.holding content (.resolved (.error cause)))
  | rejected {content : String} (hread : origin.readText path = .ok content) :
      Spoiled origin cause path (.finished (.error (.format path (.initialization cause))))

/-- What a file comes to if the step fails. -/
def spoiledOutcome (origin : Machine) (cause : StepError) (path : Path) :
    Except FileError Outcome :=
  match origin.readText path with
  | .error error => .error (.read path error)
  | .ok _ => .error (.format path (.initialization cause))

theorem Spoiled.outcome_eq {reported : Except FileError Outcome}
    (hspoiled : Spoiled origin cause path (.finished reported)) :
    reported = spoiledOutcome origin cause path := by
  cases hspoiled with
  | early hearly =>
      cases hearly with
      | unreadable hread => simp only [spoiledOutcome, hread]
  | rejected hread => simp only [spoiledOutcome, hread]

/-- An outcome that a task finds is the one that the step had or came to at the beginning. -/
theorem Course.outcome_eq (hcourse : Course step origin outcomes ⟨cell, tasks⟩ machine)
    (hsettled : cell.step.outcome = some outcome) : outcome = (step.resolve origin).1.1 := by
  cases hcourse with
  | settled hbefore hidle =>
      rw [Step.resolve_of_outcome hsettled]
  | fresh hfresh hidle hearly =>
      rw [hfresh] at hsettled
      cases hsettled
  | claimed hfresh hplace hidle hearly =>
      rw [hfresh] at hsettled
      cases hsettled
  | initialized hfresh hreadable hidle =>
      rw [Step.resolve_of_fresh hfresh]
      exact (Option.some.inj hsettled).symm

theorem Course.unused (hcourse : Course step origin outcomes ⟨cell, tasks⟩ machine)
    (hindex : tasks[index]? = some ⟨path, stage⟩) (hstage : stage.isInitializing = true) :
    machine = origin ∧ cell.step = step ∧ step.outcome = none := by
  cases hcourse with
  | settled hsettled hidle => cases hidle index _ hindex hstage
  | fresh hfresh hidle hearly => cases hidle index _ hindex hstage
  | claimed hfresh hplace hidle hearly => exact ⟨rfl, rfl, hfresh⟩
  | initialized hfresh hreadable hidle => cases hidle index _ hindex hstage

/-- The machine is the one at the beginning, or what the initializer has made of it. -/
def Barely (step : Step Machine) (origin machine : Machine) : Prop :=
  machine = origin ∨ machine = (step.resolve origin).2

def AllSpoiled (origin : Machine) (cause : StepError) (tasks : List (Task Machine)) : Prop :=
  ∀ task ∈ tasks, Spoiled origin cause task.path task.stage

theorem AllSpoiled.set (hspoiled : AllSpoiled origin cause tasks)
    (hlater : Spoiled origin cause path later) (index : Nat) :
    AllSpoiled origin cause (tasks.set index ⟨path, later⟩) :=
  forall_mem_set hspoiled hlater index

theorem Barely.quiet (hbarely : Barely step origin machine)
    (hquiet : Quiet origin (step.resolve origin).2) : Quiet origin machine := by
  rcases hbarely with rfl | rfl
  · exact ⟨rfl, rfl⟩
  · exact hquiet

theorem Quiet.readText_eq (hquiet : Quiet origin machine) (path : Path) :
    machine.readText path = origin.readText path := by
  rw [Machine.readText, hquiet.files, hquiet.location_eq, Machine.readText]

theorem Course.spoil (hcourse : Course step origin outcomes ⟨cell, tasks⟩ machine)
    (hfails : (step.resolve origin).1.1 = .error cause)
    (hquiet : Quiet origin (step.resolve origin).2)
    (hbarely : Barely step origin machine) (hspoiled : AllSpoiled origin cause tasks)
    (hindex : tasks[index]? = some ⟨path, stage⟩)
    (hacts : Acts mode path stage cell machine later after next) :
    Barely step origin next ∧ AllSpoiled origin cause (tasks.set index ⟨path, later⟩) := by
  have hread := (hbarely.quiet hquiet).readText_eq path
  have hstage := hspoiled _ (List.mem_of_getElem? hindex)
  cases hacts with
  | unreadable herror =>
      rw [hread] at herror
      exact ⟨hbarely, hspoiled.set (.early (.unreadable herror)) index⟩
  | read hcontent =>
      rw [hread] at hcontent
      exact ⟨hbarely, hspoiled.set (.early (.waiting hcontent)) index⟩
  | borrow hsettled =>
      obtain rfl := (hcourse.outcome_eq hsettled).trans hfails
      cases hstage with
      | early hearly =>
          cases hearly with
          | waiting hcontent => exact ⟨hbarely, hspoiled.set (.resolved hcontent) index⟩
  | wait hfresh hclaimed => exact ⟨hbarely, hspoiled.set hstage index⟩
  | claim hfresh hfree =>
      cases hstage with
      | early hearly =>
          cases hearly with
          | waiting hcontent =>
              exact ⟨hbarely, hspoiled.set (.early (.initializing hcontent)) index⟩
  | prepare hinitializer =>
      obtain ⟨rfl, hsame, hfresh⟩ := hcourse.unused hindex rfl
      rw [hsame] at hinitializer
      rw [Step.resolve_of_fresh hfresh, hinitializer] at hfails
      obtain rfl := hfails
      refine ⟨.inr ?_, ?_⟩
      · rw [Step.resolve_of_fresh hfresh, hinitializer]
      · cases hstage with
        | early hearly =>
            cases hearly with
            | initializing hcontent => exact hspoiled.set (.resolved hcontent) index
  | reject happlied =>
      cases hstage with
      | early hearly => cases hearly
      | resolved hcontent =>
          cases happlied
          exact ⟨hbarely, hspoiled.set (.rejected hcontent) index⟩
  | format happlied =>
      cases hstage with
      | early hearly => cases hearly
      | resolved hcontent => cases happlied
  | rest => exact ⟨hbarely, hspoiled.set hstage index⟩
  | _ =>
      cases hstage with
      | early hearly => cases hearly

/-! What a run comes to. -/

theorem Early.exists_error {reported : Except FileError Outcome}
    (hearly : Early origin path (.finished reported)) :
    ∃ error, origin.readText path = .error error := by
  cases hearly with
  | unreadable hread => exact ⟨_, hread⟩

theorem Course.length_le (hcourse : Course step origin outcomes batch machine) :
    outcomes.length ≤ 1 := by
  cases hcourse <;> simp

/-- The step has no outcome yet, and there is a file that can be read. -/
def Needed (paths : List Path) (step : Step Machine) (machine : Machine) : Prop :=
  step.outcome = none ∧ ∃ path ∈ paths, ∃ content, machine.readText path = .ok content

/-- The initializer is left alone if there is no need for it. -/
theorem Course.of_needless (hcourse : Course step origin outcomes batch machine)
    (hneedless : ¬Needed (batch.tasks.map Task.path) step origin) :
    outcomes = [] ∧ batch.cell.step = step := by
  cases hcourse with
  | initialized hfresh hreadable hidle => exact absurd ⟨hfresh, hreadable⟩ hneedless
  | _ => exact ⟨rfl, rfl⟩

/-- Once all tasks have ended, it has been run if there was a need for it. -/
theorem Course.of_needed (hcourse : Course step origin outcomes batch machine)
    (hreports : batch.reports? = some reports)
    (hneeded : Needed (reports.map Report.path) step origin) :
    outcomes = [(step.initializer origin).1] ∧
      batch.cell.step = step.settled (step.initializer origin).1 := by
  obtain ⟨hfresh, hreadable⟩ := hneeded
  have htasks := Batch.reports?_eq_some_iff.mp hreports
  cases hcourse with
  | settled hsettled hidle =>
      rw [hfresh] at hsettled
      cases hsettled
  | fresh hfresh hidle hearly =>
      obtain rfl : _ = _ := htasks
      obtain ⟨path, hpath, content, hread⟩ := hreadable
      obtain ⟨report, hreport, rfl⟩ := List.mem_map.mp hpath
      obtain ⟨error, herror⟩ :=
        (hearly _ (List.mem_map.mpr ⟨report, hreport, rfl⟩)).exists_error
      cases hread.symm.trans herror
  | claimed hfresh hplace hidle hearly =>
      obtain rfl : _ = _ := htasks
      obtain ⟨report, -, hreport⟩ := List.mem_map.mp (List.mem_of_getElem? hplace)
      cases hreport
  | initialized hfresh hreadable hidle => exact ⟨rfl, rfl⟩

theorem formatTogether_withInitializer
    (hrun : formatTogether mode paths step schedule machine = (batch, next))
    (hunused : initializations (notesTogether mode paths step schedule machine) = [])
    (initializer : Initializer Machine) :
    formatTogether mode paths (step.withInitializer initializer) schedule machine =
      (batch.withInitializer initializer, next) := by
  obtain ⟨rfl, rfl⟩ := Prod.mk.inj hrun.symm
  exact Batch.run_withInitializer (Batch.start paths step) _ hunused initializer

theorem course_run (mode : Mode) (paths : List Path) (step : Step Machine) (schedule : List Nat)
    (machine : Machine) :
    Course step (begun mode paths step machine)
      (initializations (notesTogether mode paths step schedule machine))
      (formatTogether mode paths step schedule machine).1
      (formatTogether mode paths step schedule machine).2 :=
  (Course.run (fun _ _ => True) (fun _ _ _ _ => trivial)
    (course_start paths step (begun mode paths step machine)) trivial schedule).1

theorem paths_tasks_formatTogether
    (hrun : formatTogether mode paths step schedule machine = (batch, next)) :
    batch.tasks.map Task.path = paths := by
  have hkept := Batch.paths_run mode (Batch.start paths step) schedule
    (begun mode paths step machine)
  rw [← formatTogether_eq, hrun] at hkept
  simpa [Batch.start, Function.comp_def] using hkept

theorem paths_reports_formatTogether
    (hrun : formatTogether mode paths step schedule machine = (batch, next))
    (hreports : batch.reports? = some reports) : reports.map Report.path = paths := by
  have htasks := paths_tasks_formatTogether hrun
  rwa [Batch.reports?_eq_some_iff.mp hreports, List.map_map] at htasks

theorem reports_eq_map {ending : Path → Except FileError Outcome}
    (hpaths : reports.map Report.path = paths)
    (houtcomes : ∀ report ∈ reports, report.outcome = ending report.path) :
    reports = paths.map fun path => ⟨path, ending path⟩ := by
  rw [← hpaths, List.map_map]
  refine (List.map_id reports).symm.trans (List.map_congr_left fun report hmem => ?_)
  exact congrArg (Report.mk report.path) (houtcomes report hmem)

theorem task_mem_of_reports {report : Report} (hreports : batch.reports? = some reports)
    (hmem : report ∈ reports) : report.task ∈ batch.tasks := by
  rw [Batch.reports?_eq_some_iff.mp hreports]
  exact List.mem_map.mpr ⟨report, hmem, rfl⟩

/-- A run whose step fails leaves the machine as it was, but for what the initializer did, and
its reports say so. -/
theorem spoiled_run (hfails : (step.resolve (begun mode paths step machine)).1.1 = .error cause)
    (hquiet : Quiet (begun mode paths step machine)
      (step.resolve (begun mode paths step machine)).2)
    (hrun : formatTogether mode paths step schedule machine = (batch, next)) :
    Barely step (begun mode paths step machine) next ∧
      ∀ reports, batch.reports? = some reports →
        reports = paths.map fun path => ⟨path, spoiledOutcome machine cause path⟩ := by
  obtain ⟨rfl, rfl⟩ := Prod.mk.inj hrun.symm
  have hstart : AllSpoiled (begun mode paths step machine) cause (Batch.start paths step).tasks :=
    fun task hmem => .early (allEarly_start paths step _ task hmem)
  obtain ⟨-, hbarely, hspoiled⟩ := Course.run
    (fun tasks now => Barely step (begun mode paths step machine) now ∧
      AllSpoiled (begun mode paths step machine) cause tasks)
    (fun hcourse hholds hindex hacts =>
      hcourse.spoil hfails hquiet hholds.1 hholds.2 hindex hacts)
    (course_start paths step (begun mode paths step machine)) ⟨.inl rfl, hstart⟩ schedule
  refine ⟨hbarely, fun reports hreports =>
    reports_eq_map (paths_reports_formatTogether rfl hreports) fun report hmem => ?_⟩
  have hreported : Spoiled _ cause report.path (.finished report.outcome) :=
    hspoiled report.task (task_mem_of_reports hreports hmem)
  exact hreported.outcome_eq

theorem spoiled_of_failure (hquiet : ∀ now, Quiet now (step.initializer now).2)
    (hfails : step.outcome = some (.error cause) ∨ step.outcome = none ∧
      (step.initializer (begun mode paths step machine)).1 = .error cause)
    (hrun : formatTogether mode paths step schedule machine = (batch, next)) :
    next.files = machine.files ∧ ∀ reports, batch.reports? = some reports →
      reports = paths.map fun path => ⟨path, spoiledOutcome machine cause path⟩ := by
  obtain ⟨hresolve, hready⟩ : (step.resolve (begun mode paths step machine)).1.1 = .error cause ∧
      Quiet (begun mode paths step machine)
        (step.resolve (begun mode paths step machine)).2 := by
    rcases hfails with hsettled | ⟨hfresh, houtcome⟩
    · rw [Step.resolve_of_outcome hsettled]
      exact ⟨rfl, rfl, rfl⟩
    · rw [Step.resolve_of_fresh hfresh]
      exact ⟨houtcome, hquiet _⟩
  obtain ⟨hbarely, hreports⟩ := spoiled_run hresolve hready hrun
  exact ⟨(hbarely.quiet hready).files, hreports⟩

theorem counted_run (hrun : formatTogether mode paths step schedule machine = (batch, next)) :
    let outcome := (step.initializer (begun mode paths step machine)).1
    let answers := initializations (notesTogether mode paths step schedule machine)
    answers.length ≤ 1 ∧
      (¬Needed paths step machine → answers = [] ∧ batch.cell.step = step) ∧
      ∀ reports, batch.reports? = some reports → Needed paths step machine →
        answers = [outcome] ∧ batch.cell.step = step.settled outcome := by
  intro outcome answers
  have hcourse := course_run mode paths step schedule machine
  have hpaths := paths_tasks_formatTogether hrun
  rw [hrun] at hcourse
  refine ⟨hcourse.length_le, fun hneedless => hcourse.of_needless ?_,
    fun reports hreports hneeded => hcourse.of_needed hreports ?_⟩
  · rw [hpaths]
    exact hneedless
  · rw [paths_reports_formatTogether hrun hreports]
    exact hneeded

/-- Files that are formatted together have the initializer of their step run once, if it has not
been run before and one of them can be read, and not at all otherwise, so that any other one
would have done. If the step fails then no file changes. All files that can be read are reported
with its cause, and each of the others with its own. -/
theorem initialization_run (mode : Mode) (paths : List Path) (step : Step Machine)
    (machine : Machine) (hquiet : ∀ now, Quiet now (step.initializer now).2) :
    let outcome := (step.initializer (begun mode paths step machine)).1
    let spoiled (cause : StepError) : List Report :=
      paths.map fun path => ⟨path, spoiledOutcome machine cause path⟩
    let fails (cause : StepError) : Prop :=
      step.outcome = some (.error cause) ∨ step.outcome = none ∧ outcome = .error cause
    (∀ order, Fair paths.length order → ∃ count reports,
      (formatTogether mode paths step (turns order 0 count) machine).1.reports? =
        some reports) ∧
    (∀ reports made next, formatFiles mode paths step machine = ((reports, made), next) →
      ∃ notes, Observed.collected (formatFiles mode paths (step.observed ())) machine =
          (((reports, made.observed ()), notes), next) ∧
        (Needed paths step machine →
          initializations notes = [outcome] ∧ made = step.settled outcome) ∧
        (¬Needed paths step machine → initializations notes = [] ∧ made = step) ∧
        ∀ cause, fails cause → reports = spoiled cause ∧ next.files = machine.files) ∧
    ∀ schedule batch after, formatTogether mode paths step schedule machine = (batch, after) →
      ∃ notes,
        Observed.collected (formatTogether mode paths (step.observed ()) schedule) machine =
          ((batch.observed, notes), after) ∧
        (initializations notes).length ≤ 1 ∧
        (¬Needed paths step machine → initializations notes = [] ∧ batch.cell.step = step ∧
          ∀ other, formatTogether mode paths (step.withInitializer other) schedule machine =
            (batch.withInitializer other, after)) ∧
        (∀ cause, fails cause → after.files = machine.files) ∧
        ∀ reports, batch.reports? = some reports →
          (Needed paths step machine → initializations notes = [outcome] ∧
            batch.cell.step = step.settled outcome) ∧
          ∀ cause, fails cause → reports = spoiled cause := by
  intro outcome spoiled fails
  refine ⟨fun order hfair => exists_reports_formatTogether hfair mode step machine, ?_, ?_⟩
  · intro reports made next hfiles
    have hnotes := collected_formatFiles mode paths step machine
    obtain ⟨batch, hrun, hreports, rfl⟩ := formatFiles_of_formatTogether hfiles
    obtain ⟨-, hneedless, hneeded⟩ := counted_run hrun
    rw [hfiles] at hnotes
    refine ⟨_, hnotes, hneeded reports hreports, hneedless, fun cause hfails => ?_⟩
    obtain ⟨hkept, hspoiled⟩ := spoiled_of_failure hquiet hfails hrun
    exact ⟨hspoiled reports hreports, hkept⟩
  · intro schedule batch after hrun
    have hnotes := collected_formatTogether mode paths step schedule machine
    obtain ⟨hfew, hneedless, hneeded⟩ := counted_run hrun
    rw [hrun] at hnotes
    refine ⟨_, hnotes, hfew, fun hunneeded => ?_,
      fun cause hfails => (spoiled_of_failure hquiet hfails hrun).1, fun reports hreports =>
        ⟨hneeded reports hreports, fun cause hfails =>
          (spoiled_of_failure hquiet hfails hrun).2 reports hreports⟩⟩
    obtain ⟨hunused, hstep⟩ := hneedless hunneeded
    exact ⟨hunused, hstep, formatTogether_withInitializer hrun hunused⟩

theorem initialization_run_of_failing :
    let paths : List Path := [⟨"/a.kt"⟩, ⟨"/b.kt"⟩]
    let step := Step.failing (.configuration "none")
    ∃ reports made next notes,
      formatFiles .write paths step (oneFile "x" none) = ((reports, made), next) ∧
      Observed.collected (formatFiles .write paths (step.observed ())) (oneFile "x" none) =
        (((reports, made.observed ()), notes), next) ∧
      initializations notes = [.error (.configuration "none")] ∧
      reports = [
        ⟨⟨"/a.kt"⟩, .error (.format ⟨"/a.kt"⟩ (.initialization (.configuration "none")))⟩,
        ⟨⟨"/b.kt"⟩, .error (.read ⟨"/b.kt"⟩ .notFound)⟩] := by
  intro paths step
  obtain ⟨-, hfiles, -⟩ := initialization_run .write paths step (oneFile "x" none)
    fun _ => ⟨rfl, rfl⟩
  obtain ⟨notes, hnotes, hneeded, -, hspoiled⟩ := hfiles _ _ _ rfl
  exact ⟨_, _, _, notes, rfl, hnotes,
    (hneeded ⟨rfl, ⟨"/a.kt"⟩, List.mem_cons_self, "x", rfl⟩).1, (hspoiled _ (.inr ⟨rfl, rfl⟩)).1⟩

end Files
end CodeFormatting
