import CodeFormatting.Proofs.Files.Tasks
namespace CodeFormatting.Files

/-! Tasks that share a step come to their ends. Every action that is not a wait brings its
task nearer to its end, and while a task waits another one runs the initializer. -/

variable {mode : Mode} {path : Path} {step : Step Machine} {cell after : Cell Machine}
  {stage later : Stage Machine} {machine next : Machine} {tasks : List (Task Machine)} {index : Nat}

/-- The most actions that a stage leaves to be done. -/
def Stage.distance : Stage Machine → Nat
  | .finished _ => 0
  | .filling _ _ => 1
  | .formatted _ _ => 2
  | .holding _ (.resolved _) => 3
  | .holding _ .initializing => 4
  | .holding _ .waiting => 5
  | .arriving => 6

def Batch.distanceOf : List (Task Machine) → Nat
  | [] => 0
  | task :: rest => task.stage.distance + distanceOf rest

def Batch.distance (batch : Batch Machine) : Nat :=
  distanceOf batch.tasks

inductive Stage.Idle (cell : Cell Machine) : Stage Machine → Prop
  | finished (outcome : Except FileError Outcome) : Idle cell (.finished outcome)
  | waiting (content : String) (hfresh : cell.step.outcome = none)
      (hclaimed : cell.claimed = true) : Idle cell (.holding content .waiting)

theorem Acts.idle_or_nearer (hacts : Acts mode path stage cell machine later after next) :
    (stage.Idle cell ∧ later = stage ∧ after = cell ∧ next = machine) ∨
      later.distance < stage.distance := by
  cases hacts with
  | wait hfresh hclaimed => exact .inl ⟨.waiting _ hfresh hclaimed, rfl, rfl, rfl⟩
  | rest => exact .inl ⟨.finished _, rfl, rfl, rfl⟩
  | _ => exact .inr (by simp [Stage.distance])

namespace Batch

theorem distance_set_lt (hindex : tasks[index]? = some ⟨path, stage⟩)
    (hnearer : later.distance < stage.distance) (cell after : Cell Machine) :
    distance ⟨after, tasks.set index ⟨path, later⟩⟩ < distance ⟨cell, tasks⟩ := by
  simp only [distance]
  induction tasks generalizing index with
  | nil => cases hindex
  | cons task rest induction =>
      cases index with
      | zero =>
          cases hindex
          exact Nat.add_lt_add_right hnearer _
      | succ index => exact Nat.add_lt_add_left (induction hindex) _

theorem advance_idle_or_nearer (mode : Mode) (batch : Batch Machine) (index : Nat)
    (machine : Machine) :
    batch.advance mode index machine = (batch, machine) ∨
      (batch.advance mode index machine).1.distance < batch.distance := by
  rcases hindex : batch.tasks[index]? with _ | ⟨path, stage⟩
  · exact .inl (advance_of_absent hindex machine)
  · rcases hact : stage.act mode path batch.cell machine with ⟨⟨later, after⟩, next⟩
    have hacts := acts_act mode path stage batch.cell machine
    rw [hact] at hacts
    rw [advance_of_act hindex hact]
    rcases hacts.idle_or_nearer with ⟨-, rfl, rfl, rfl⟩ | hnearer
    · exact .inl (by rw [set_of_getElem? hindex])
    · exact .inr (distance_set_lt hindex hnearer _ _)

theorem run_idle_or_nearer (mode : Mode) (batch : Batch Machine) (schedule : List Nat)
    (machine : Machine) :
    batch.run mode schedule machine = (batch, machine) ∨
      (batch.run mode schedule machine).1.distance < batch.distance := by
  induction schedule generalizing batch machine with
  | nil => exact .inl rfl
  | cons index rest induction =>
      rw [run_cons]
      rcases advance_idle_or_nearer mode batch index machine with hidle | hnearer
      · rw [hidle]
        exact induction batch machine
      · refine .inr ?_
        rcases induction (batch.advance mode index machine).1
            (batch.advance mode index machine).2 with hidle | hlater
        · rwa [hidle]
        · exact Nat.lt_trans hlater hnearer

/-- The initializer is only ever claimed by a task that is about to run it. -/
def Attended (batch : Batch Machine) : Prop :=
  batch.cell.claimed = true →
    ∃ task ∈ batch.tasks, ∃ content, task.stage = .holding content .initializing

theorem attended_start (paths : List Path) (step : Step Machine) :
    (start paths step).Attended := by
  intro hclaimed
  cases hclaimed

theorem mem_set_of_ne {Item : Type} {items : List Item} {item old : Item} (hmem : item ∈ items)
    (hindex : items[index]? = some old) (hne : item ≠ old) (new : Item) :
    item ∈ items.set index new := by
  obtain ⟨place, hplace⟩ := List.mem_iff_getElem?.mp hmem
  refine List.mem_iff_getElem?.mpr ⟨place, ?_⟩
  rw [List.getElem?_set_ne, hplace]
  rintro rfl
  rw [hplace] at hindex
  exact hne (Option.some.inj hindex)

theorem Attended.set (hattended : Attended ⟨cell, tasks⟩)
    (hindex : tasks[index]? = some ⟨path, stage⟩)
    (hacts : Acts mode path stage cell machine later after next) :
    Attended ⟨after, tasks.set index ⟨path, later⟩⟩ := by
  intro hclaimed
  have hkept (hstage : ∀ content, stage ≠ .holding content .initializing)
      (hbefore : cell.claimed = true) : ∃ task ∈ tasks.set index ⟨path, later⟩,
        ∃ content, task.stage = .holding content .initializing := by
    obtain ⟨task, hmem, content, hinitializing⟩ := hattended hbefore
    refine ⟨task, mem_set_of_ne hmem hindex ?_ _, content, hinitializing⟩
    rintro rfl
    exact hstage content hinitializing
  cases hacts with
  | claim hfresh hfree =>
      exact ⟨_, List.mem_set (List.getElem?_eq_some_iff.mp hindex).1 _, _, rfl⟩
  | prepare hinitializer => cases hclaimed
  | _ => exact hkept (fun _ => nofun) hclaimed

theorem attended_run {batch : Batch Machine} (hattended : batch.Attended) (mode : Mode)
    (schedule : List Nat) (machine : Machine) :
    (batch.run mode schedule machine).1.Attended :=
  run_induction (fun batch _ => batch.Attended)
    (fun hattended hindex hacts => hattended.set hindex hacts) hattended schedule

theorem exists_reports {batch : Batch Machine}
    (hended : ∀ task ∈ batch.tasks, ∃ outcome, task.stage = .finished outcome) :
    ∃ reports, batch.reports? = some reports := by
  rcases batch with ⟨cell, tasks⟩
  simp only [reports?_eq_some_iff] at hended ⊢
  induction tasks with
  | nil => exact ⟨[], rfl⟩
  | cons task rest induction =>
      obtain ⟨outcome, hstage⟩ := hended task List.mem_cons_self
      obtain ⟨reports, rfl⟩ := induction fun task hmem => hended task (List.mem_cons_of_mem _ hmem)
      refine ⟨⟨task.path, outcome⟩ :: reports, ?_⟩
      rw [List.map_cons, Report.task, ← hstage]

theorem exists_reports_or_busy {batch : Batch Machine} (hattended : batch.Attended) :
    (∃ reports, batch.reports? = some reports) ∨
      ∃ task ∈ batch.tasks, ¬task.stage.Idle batch.cell := by
  by_cases hidle : ∀ task ∈ batch.tasks, task.stage.Idle batch.cell
  · refine .inl (exists_reports fun task hmem => ?_)
    rcases task with ⟨path, stage⟩
    cases hidle _ hmem with
    | finished outcome => exact ⟨outcome, rfl⟩
    | waiting content hfresh hclaimed =>
        obtain ⟨task, hbusy, content, hinitializing⟩ := hattended hclaimed
        have hstuck := hidle task hbusy
        rw [hinitializing] at hstuck
        cases hstuck
  · simp only [Classical.not_forall] at hidle
    obtain ⟨task, hmem, hbusy⟩ := hidle
    exact .inr ⟨task, hmem, hbusy⟩

theorem distance_advance_lt {batch : Batch Machine} {task : Task Machine}
    (hindex : batch.tasks[index]? = some task) (hbusy : ¬task.stage.Idle batch.cell)
    (mode : Mode) (machine : Machine) :
    (batch.advance mode index machine).1.distance < batch.distance := by
  rcases task with ⟨path, stage⟩
  have hacts := acts_act mode path stage batch.cell machine
  rw [advance_of_act hindex rfl]
  rcases hacts.idle_or_nearer with ⟨hidle, -⟩ | hnearer
  · exact absurd hidle hbusy
  · exact distance_set_lt hindex hnearer _ _

theorem length_run (mode : Mode) (batch : Batch Machine) (schedule : List Nat) (machine : Machine) :
    (batch.run mode schedule machine).1.tasks.length = batch.tasks.length := by
  rw [← List.length_map Task.path, paths_run, List.length_map]

end Batch

/-- In a fair order every task gets its turn again and again. -/
def Fair (count : Nat) (order : Nat → Nat) : Prop :=
  ∀ index < count, ∀ moment, ∃ wait, order (moment + wait) = index

/-- What an order has act from some moment on. -/
def turns (order : Nat → Nat) (moment count : Nat) : List Nat :=
  (List.range' moment count).map order

theorem turns_add (order : Nat → Nat) (moment count more : Nat) :
    turns order moment (count + more) =
      turns order moment count ++ turns order (moment + count) more := by
  rw [turns, ← List.range'_append_1, List.map_append]
  rfl

/-- Under a fair order a batch that is not done gets nearer to its end. -/
theorem exists_nearer {batch : Batch Machine} {order : Nat → Nat}
    (hfair : Fair batch.tasks.length order) {task : Task Machine} (hmem : task ∈ batch.tasks)
    (hbusy : ¬task.stage.Idle batch.cell) (mode : Mode) (moment : Nat) (machine : Machine) :
    ∃ count,
      (batch.run mode (turns order moment count) machine).1.distance < batch.distance := by
  obtain ⟨index, hindex⟩ := List.mem_iff_getElem?.mp hmem
  obtain ⟨wait, hturn⟩ := hfair index (List.getElem?_eq_some_iff.mp hindex).1 moment
  rcases Batch.run_idle_or_nearer mode batch (turns order moment wait) machine with
    hidle | hnearer
  -- nothing has moved by the turn of the busy task, so it is still the same batch that it acts on
  · refine ⟨wait + 1, ?_⟩
    have hlast : turns order (moment + wait) 1 = [index] := congrArg (fun turn => [turn]) hturn
    rw [turns_add, Batch.run_append, hidle, hlast]
    exact Batch.distance_advance_lt hindex hbusy mode machine
  · exact ⟨wait, hnearer⟩

theorem exists_reports_run {batch : Batch Machine} {order : Nat → Nat}
    (hfair : Fair batch.tasks.length order) (hattended : batch.Attended) (mode : Mode)
    (moment : Nat) (machine : Machine) :
    ∃ count reports,
      (batch.run mode (turns order moment count) machine).1.reports? = some reports := by
  -- by the distance from the end, which a fair order makes smaller sooner or later
  induction hdistance : batch.distance using Nat.strongRecOn
    generalizing batch moment machine with
  | _ distance induction =>
      subst hdistance
      rcases Batch.exists_reports_or_busy hattended with ⟨reports, hreports⟩ | ⟨task, hmem, hbusy⟩
      · exact ⟨0, reports, hreports⟩
      · obtain ⟨count, hnearer⟩ := exists_nearer hfair hmem hbusy mode moment machine
        rw [← Batch.length_run mode batch (turns order moment count) machine] at hfair
        obtain ⟨more, reports, hreports⟩ := induction _ hnearer hfair
          (Batch.attended_run hattended mode _ machine) (moment + count) _ rfl
        refine ⟨count + more, reports, ?_⟩
        rw [turns_add, Batch.run_append]
        exact hreports

/-- Files that are formatted together are all done after some time, whatever the order in
which their tasks act, if only it is fair. -/
theorem exists_reports_formatTogether {paths : List Path} {order : Nat → Nat}
    (hfair : Fair paths.length order) (mode : Mode) (step : Step Machine) (machine : Machine) :
    ∃ count reports,
      (formatTogether mode paths step (turns order 0 count) machine).1.reports? =
        some reports := by
  refine exists_reports_run ?_ (Batch.attended_start paths step) mode 0 _
  rwa [Batch.start, List.length_map]

end CodeFormatting.Files
