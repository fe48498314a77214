import CodeFormatting.Proofs.Files.Progress
namespace CodeFormatting.Files

/-! Tasks that act in turn are all done after as many rounds as there are stages. In the first
they read. After the second a task only waits if there is an outcome or another task runs the
initializer, which is done in the third, so that from the fourth on each round brings every
task nearer to its end. -/

variable {mode : Mode} {path : Path} {paths : List Path} {step made : Step Machine}
  {cell after : Cell Machine} {stage later : Stage Machine} {machine next : Machine}
  {batch : Batch Machine} {index count : Nat} {schedule : List Nat} {reports : List Report}
  {Given Reached : Cell Machine → Stage Machine → Prop}

/-- From the one thing the next action of a task leads to the other. -/
def Leads (Given Reached : Cell Machine → Stage Machine → Prop) : Prop :=
  ∀ {mode : Mode} {path : Path} {cell after : Cell Machine} {stage later : Stage Machine}
    {machine next : Machine}, Acts mode path stage cell machine later after next →
    Given cell stage → Reached after later

/-- What a task has come to is left to it by its own actions and by those of the others. -/
structure Lasting (Reached : Cell Machine → Stage Machine → Prop) : Prop where
  acting : Leads Reached Reached
  resting {mode : Mode} {path : Path} {cell after : Cell Machine}
    {stage later resting : Stage Machine} {machine next : Machine}
    (hacts : Acts mode path stage cell machine later after next)
    (hreached : Reached cell resting) : Reached after resting

/-- The task in a place, if there is one, has come to something. -/
def Batch.At (Reached : Cell Machine → Stage Machine → Prop) (index : Nat)
    (batch : Batch Machine) : Prop :=
  ∀ task, batch.tasks[index]? = some task → Reached batch.cell task.stage

theorem Batch.At.run (hlasting : Lasting Reached) (hat : batch.At Reached index) (mode : Mode)
    (schedule : List Nat) (machine : Machine) :
    (batch.run mode schedule machine).1.At Reached index := by
  refine run_induction (fun batch _ => batch.At Reached index) ?_ hat schedule
  intro cell after tasks place path stage later machine next hat hplace hacts task htask
  by_cases hsame : place = index
  · subst hsame
    rw [List.getElem?_set_self (List.getElem?_eq_some_iff.mp hplace).1] at htask
    cases htask
    exact hlasting.acting hacts (hat _ hplace)
  · rw [List.getElem?_set_ne hsame] at htask
    exact hlasting.resting hacts (hat task htask)

/-- A task that has its turn comes to what its actions bring it to. -/
theorem Batch.At.turn (hgiven : Lasting Given) (hreached : Lasting Reached)
    (hleads : Leads Given Reached) (hat : batch.At Given index)
    (hmem : index ∈ schedule) (mode : Mode) (machine : Machine) :
    (batch.run mode schedule machine).1.At Reached index := by
  obtain ⟨early, late, rfl⟩ := List.append_of_mem hmem
  have hearly := hat.run hgiven mode early machine
  rw [run_append, run_cons]
  refine At.run hreached ?_ mode late _
  intro task htask
  rcases hindex : (batch.run mode early machine).1.tasks[index]? with _ | ⟨path, stage⟩
  · rw [advance_of_absent hindex, hindex] at htask
    cases htask
  · rw [advance_of_act hindex rfl] at htask ⊢
    rw [List.getElem?_set_self (List.getElem?_eq_some_iff.mp hindex).1] at htask
    cases htask
    exact hleads (acts_act mode path stage _ _) (hearly _ hindex)

theorem Batch.At.round (hgiven : Lasting Given) (hreached : Lasting Reached)
    (hleads : Leads Given Reached) (hat : ∀ index, batch.At Given index) (mode : Mode)
    (machine : Machine) (index : Nat) :
    (batch.run mode (List.range batch.tasks.length) machine).1.At Reached index := by
  by_cases hbound : index < batch.tasks.length
  · exact (hat index).turn hgiven hreached hleads (List.mem_range.mpr hbound) mode machine
  · intro task htask
    have hpresent := (List.getElem?_eq_some_iff.mp htask).1
    rw [length_run] at hpresent
    exact absurd hpresent hbound

/-! How near to its end each round brings a task. -/

theorem Acts.distance_le (hacts : Acts mode path stage cell machine later after next) :
    later.distance ≤ stage.distance := by
  rcases hacts.idle_or_nearer with ⟨-, rfl, -, -⟩ | hnearer
  · exact Nat.le_refl _
  · exact Nat.le_of_lt hnearer

def Near (count : Nat) (_ : Cell Machine) (stage : Stage Machine) : Prop :=
  stage.distance ≤ count

theorem lasting_near (count : Nat) : Lasting (Near count) where
  acting hacts hnear := Nat.le_trans hacts.distance_le hnear
  resting _ hnear := hnear

theorem near_six (cell : Cell Machine) (stage : Stage Machine) : Near 6 cell stage := by
  rcases stage with _ | ⟨content, _ | _ | outcome⟩ | _ | _ | _ <;> simp [Near, Stage.distance]

/-- Someone has the step, or has had it. -/
def Cell.Taken (cell : Cell Machine) : Prop :=
  cell.step.outcome ≠ none ∨ cell.claimed = true

theorem Acts.settled (hacts : Acts mode path stage cell machine later after next)
    (hsettled : cell.step.outcome ≠ none) : after.step.outcome ≠ none := by
  cases hacts with
  | prepare hinitializer => simp
  | _ => exact hsettled

theorem Acts.taken (hacts : Acts mode path stage cell machine later after next)
    (htaken : cell.Taken) : after.Taken := by
  cases hacts with
  | claim hfresh hfree => exact .inr rfl
  | prepare hinitializer => exact .inl (by simp)
  | _ => exact htaken

/-- A task waits only while someone has the step. -/
def Unblocked (cell : Cell Machine) (stage : Stage Machine) : Prop :=
  Near 4 cell stage ∨ Near 5 cell stage ∧ cell.Taken

/-- A task that waits finds an outcome. -/
def Served (cell : Cell Machine) (stage : Stage Machine) : Prop :=
  Near 3 cell stage ∨ Near 5 cell stage ∧ cell.step.outcome ≠ none

/-- The initializer has come to its end, or is about to be run by the task. -/
def Opening (cell : Cell Machine) (stage : Stage Machine) : Prop :=
  cell.step.outcome ≠ none ∨ ∃ content, stage = .holding content .initializing

theorem lasting_settled : Lasting fun cell _ => cell.step.outcome ≠ none where
  acting hacts hsettled := hacts.settled hsettled
  resting hacts hsettled := hacts.settled hsettled

theorem lasting_unblocked : Lasting Unblocked where
  acting hacts := Or.imp ((lasting_near 4).acting hacts)
    (And.imp ((lasting_near 5).acting hacts) hacts.taken)
  resting hacts := Or.imp_right (And.imp_right hacts.taken)

theorem lasting_served : Lasting Served where
  acting hacts := Or.imp ((lasting_near 3).acting hacts)
    (And.imp ((lasting_near 5).acting hacts) hacts.settled)
  resting hacts := Or.imp_right (And.imp_right hacts.settled)

theorem leads_settled : Leads Opening fun cell _ => cell.step.outcome ≠ none := by
  rintro mode path cell after stage later machine next hacts (hsettled | ⟨content, rfl⟩)
  · exact hacts.settled hsettled
  · cases hacts with
    | prepare hinitializer => simp

theorem lasting_opening : Lasting Opening where
  acting hacts hopening := .inl (leads_settled hacts hopening)
  resting hacts := Or.imp_left hacts.settled

theorem leads_near_five : Leads (Near 6) (Near 5) := by
  intro mode path cell after stage later machine next hacts hnear
  rcases hacts.idle_or_nearer with ⟨hidle, rfl, -, -⟩ | hnearer
  · cases hidle <;> simp [Near, Stage.distance]
  · exact Nat.le_of_lt_succ (Nat.lt_of_lt_of_le hnearer hnear)

theorem leads_unblocked : Leads (Near 5) Unblocked := by
  intro mode path cell after stage later machine next hacts hnear
  rcases hacts.idle_or_nearer with ⟨hidle, rfl, rfl, -⟩ | hnearer
  · cases hidle with
    | finished outcome => exact .inl (Nat.zero_le 4)
    | waiting content hfresh hclaimed => exact .inr ⟨hnear, .inr hclaimed⟩
  · exact .inl (Nat.le_of_lt_succ (Nat.lt_of_lt_of_le hnearer hnear))

theorem leads_near_three : Leads Served (Near 3) := by
  rintro mode path cell after stage later machine next hacts (hnear | ⟨hnear, hsettled⟩)
  · exact (lasting_near 3).acting hacts hnear
  · cases hacts with
    | unreadable hread => exact Nat.zero_le 3
    | read hread => exact absurd hnear (by simp [Near, Stage.distance])
    | wait hfresh hclaimed => exact absurd hfresh hsettled
    | claim hfresh hfree => exact absurd hfresh hsettled
    | _ => simp [Near, Stage.distance]

/-- A task that does not wait any more is nearer to its end after each action. -/
theorem leads_near (hcount : count ≤ 3) : Leads (Near (count + 1)) (Near count) := by
  intro mode path cell after stage later machine next hacts hnear
  rcases hacts.idle_or_nearer with ⟨hidle, rfl, -, -⟩ | hnearer
  · cases hidle with
    | finished outcome => exact Nat.zero_le count
    | waiting content hfresh hclaimed =>
        have hfive : 5 ≤ count + 1 := hnear
        omega
  · exact Nat.le_of_lt_succ (Nat.lt_of_lt_of_le hnearer hnear)

/-! The rounds. -/

theorem Batch.settled_run (hsettled : batch.cell.step.outcome ≠ none) (mode : Mode)
    (schedule : List Nat) (machine : Machine) :
    (batch.run mode schedule machine).1.cell.step.outcome ≠ none :=
  run_induction (fun batch _ => batch.cell.step.outcome ≠ none)
    (fun hsettled _ hacts => hacts.settled hsettled) hsettled schedule

/-- The task that runs the initializer has its turn in a round, after which there is an outcome. -/
theorem Batch.settled_round (hattended : batch.Attended) (htaken : batch.cell.Taken) (mode : Mode)
    (machine : Machine) :
    (batch.run mode (List.range batch.tasks.length) machine).1.cell.step.outcome ≠ none := by
  rcases htaken with hsettled | hclaimed
  · exact settled_run hsettled mode _ machine
  · obtain ⟨task, hmem, content, hinitializing⟩ := hattended hclaimed
    obtain ⟨index, hindex⟩ := List.mem_iff_getElem?.mp hmem
    have hbound := (List.getElem?_eq_some_iff.mp hindex).1
    have hopening : batch.At Opening index := by
      intro other hother
      rw [hindex] at hother
      cases hother
      exact .inr ⟨content, hinitializing⟩
    have hturned := hopening.turn lasting_opening lasting_settled leads_settled
      (List.mem_range.mpr hbound) mode machine
    rw [← length_run mode batch (List.range batch.tasks.length) machine] at hbound
    exact hturned _ (List.getElem?_eq_getElem hbound)

theorem Batch.served_round (hattended : batch.Attended)
    (hunblocked : ∀ index, batch.At Unblocked index) (mode : Mode) (machine : Machine)
    (index : Nat) :
    (batch.run mode (List.range batch.tasks.length) machine).1.At Served index := by
  by_cases htaken : batch.cell.Taken
  · have hsettled := settled_round hattended htaken mode machine
    have hnear : batch.At (Near 5) index := by
      intro task htask
      rcases hunblocked index task htask with hnear | ⟨hnear, -⟩
      · exact Nat.le_succ_of_le hnear
      · exact hnear
    exact fun task htask =>
      .inr ⟨hnear.run (lasting_near 5) mode _ machine task htask, hsettled⟩
  · have hnear : ∀ index, batch.At (Near 4) index := by
      intro index task htask
      exact (hunblocked index task htask).resolve_right fun hwaiting => htaken hwaiting.2
    exact fun task htask => .inl (At.round (lasting_near 4) (lasting_near 3)
      (leads_near (Nat.le_refl 3)) hnear mode machine index task htask)

/-- What has to be reached by a task for so many rounds to be enough. -/
def Within : Nat → Cell Machine → Stage Machine → Prop
  | 0 => Near 0
  | 1 => Near 1
  | 2 => Near 2
  | 3 => Near 3
  | 4 => Served
  | 5 => Unblocked
  | 6 => Near 5
  | _ + 7 => Near 6

theorem Batch.within_round (hattended : batch.Attended) (mode : Mode) (machine : Machine) :
    (rounds : Nat) → (∀ index, batch.At (Within (rounds + 1)) index) →
      ∀ index, (batch.run mode (List.range batch.tasks.length) machine).1.At (Within rounds) index
  | 0, hat => At.round (lasting_near 1) (lasting_near 0) (leads_near (by omega)) hat mode machine
  | 1, hat => At.round (lasting_near 2) (lasting_near 1) (leads_near (by omega)) hat mode machine
  | 2, hat => At.round (lasting_near 3) (lasting_near 2) (leads_near (by omega)) hat mode machine
  | 3, hat => At.round lasting_served (lasting_near 3) leads_near_three hat mode machine
  | 4, hat => served_round hattended hat mode machine
  | 5, hat => At.round (lasting_near 5) lasting_unblocked leads_unblocked hat mode machine
  | 6, hat => At.round (lasting_near 6) (lasting_near 5) leads_near_five hat mode machine
  | _ + 7, hat => fun index => (hat index).run (lasting_near 6) mode _ machine

theorem Batch.within_roundRobin (hattended : batch.Attended) {rounds : Nat}
    (hat : ∀ index, batch.At (Within rounds) index) (mode : Mode) (machine : Machine)
    (index : Nat) :
    (batch.run mode (roundRobin batch.tasks.length rounds) machine).1.At (Within 0) index := by
  induction rounds generalizing batch machine with
  | zero => exact hat index
  | succ rounds induction =>
      have hrest := induction (attended_run hattended mode _ machine)
        (within_round hattended mode machine rounds hat)
        (batch.run mode (List.range batch.tasks.length) machine).2
      rw [length_run] at hrest
      rw [roundRobin, run_append]
      exact hrest

theorem finished_of_distance (hended : stage.distance ≤ 0) :
    ∃ outcome, stage = .finished outcome := by
  rcases stage with _ | ⟨content, _ | _ | outcome⟩ | _ | _ | outcome
  case finished => exact ⟨outcome, rfl⟩
  all_goals cases hended

/-- However far the tasks of a batch have come, seven rounds bring them all to their ends. -/
theorem Batch.exists_reports_roundRobin (hattended : batch.Attended) (mode : Mode)
    (machine : Machine) :
    ∃ reports, (batch.run mode (roundRobin batch.tasks.length 7) machine).1.reports? =
      some reports := by
  have hstart : ∀ index, batch.At (Within 7) index := fun index task _ =>
    near_six batch.cell task.stage
  refine exists_reports fun task hmem => ?_
  obtain ⟨index, hindex⟩ := List.mem_iff_getElem?.mp hmem
  exact finished_of_distance (within_roundRobin hattended hstart mode machine index task hindex)

/-! Files that are formatted on a machine with a schedule of its own. -/

theorem Task.report?_task (report : Report) : report.task.report? = some report :=
  Task.report?_eq_some_iff.mpr rfl

theorem Batch.reports_eq (hreports : batch.reports? = some reports) : batch.reports = reports := by
  rw [Batch.reports, reports?_eq_some_iff.mp hreports, List.filterMap_map]
  simp only [Function.comp_def, Task.report?_task, List.filterMap_some]

theorem Batch.run_of_ended (hreports : batch.reports? = some reports) (mode : Mode)
    (schedule : List Nat) (machine : Machine) :
    batch.run mode schedule machine = (batch, machine) := by
  induction schedule with
  | nil => rfl
  | cons index schedule induction =>
      have hidle : batch.advance mode index machine = (batch, machine) := by
        rcases hindex : batch.tasks[index]? with _ | task
        · exact advance_of_absent hindex machine
        · have hended := List.mem_of_getElem? hindex
          rw [reports?_eq_some_iff.mp hreports, List.mem_map] at hended
          obtain ⟨report, -, rfl⟩ := hended
          rw [advance_of_act hindex rfl]
          exact Prod.ext (congrArg (Batch.mk batch.cell) (set_of_getElem? hindex)) rfl
      rw [run_cons, hidle]
      exact induction

theorem formatFiles_eq (mode : Mode) (paths : List Path) (step : Step Machine)
    (machine : Machine) :
    formatFiles mode paths step machine =
      (let (batch, next) := formatTogether mode paths step
        (machine.schedule ++ roundRobin paths.length 7) machine
      ((batch.reports, batch.cell.step), next)) :=
  rfl

/-- In a run over files their tasks act together until all have ended. -/
theorem formatFiles_of_formatTogether
    (hfiles : formatFiles mode paths step machine = ((reports, made), next)) :
    ∃ batch, formatTogether mode paths step
        (machine.schedule ++ roundRobin paths.length 7) machine = (batch, next) ∧
      batch.reports? = some reports ∧ batch.cell.step = made := by
  rcases hrun : formatTogether mode paths step
    (machine.schedule ++ roundRobin paths.length 7) machine with ⟨batch, last⟩
  rw [formatFiles_eq, hrun] at hfiles
  cases hfiles
  rw [formatTogether_eq, Batch.run_append] at hrun
  have hlength : ((Batch.start paths step).run mode machine.schedule
      (begun mode paths step machine)).1.tasks.length = paths.length := by
    rw [Batch.length_run, Batch.start, List.length_map]
  obtain ⟨reports, hreports⟩ := Batch.exists_reports_roundRobin
    (Batch.attended_run (Batch.attended_start paths step) mode machine.schedule
      (begun mode paths step machine)) mode _
  rw [hlength, hrun] at hreports
  exact ⟨batch, rfl, by rw [Batch.reports_eq hreports, hreports], rfl⟩

/-- Whatever the order in which tasks have come to their ends, there is a run over the files that
does the same. -/
theorem formatFiles_of_schedule
    (hrun : formatTogether mode paths step machine.schedule machine = (batch, next))
    (hreports : batch.reports? = some reports) :
    formatFiles mode paths step machine = ((reports, batch.cell.step), next) := by
  have hended : formatTogether mode paths step
      (machine.schedule ++ roundRobin paths.length 7) machine = (batch, next) := by
    rw [formatTogether_eq] at hrun ⊢
    rw [Batch.run_append, hrun]
    exact Batch.run_of_ended hreports mode _ next
  rw [formatFiles_eq, hended]
  exact congrArg (fun made => ((made, batch.cell.step), next)) (Batch.reports_eq hreports)

/-! A file that is formatted with no other. -/

theorem Batch.run_lone (mode : Mode) (path : Path) (stage : Stage Machine) (cell : Cell Machine)
    (schedule : List Nat) (machine : Machine) :
    Batch.run mode ⟨cell, [⟨path, stage⟩]⟩ schedule machine =
      (let ((later, after), next) :=
        Stage.actFor mode path (schedule.count 0) (stage, cell) machine
      (⟨after, [⟨path, later⟩]⟩, next)) := by
  induction schedule generalizing stage cell machine with
  | nil => rfl
  | cons index schedule induction =>
      cases index with
      | zero =>
          rw [run_cons, advance_of_act rfl rfl, List.count_cons_self]
          exact induction _ _ _
      | succ index =>
          rw [run_cons, advance_of_absent rfl, List.count_cons_of_ne (Nat.succ_ne_zero index)]
          exact induction _ _ _

theorem formatFiles_of_formatFile {outcome : Except FileError Outcome}
    (hfile : formatFile mode path step (begun mode [path] step machine) =
      ((outcome, made), next)) :
    formatFiles mode [path] step machine = (([⟨path, outcome⟩], made), next) := by
  have hturns : (machine.schedule ++ roundRobin [path].length 7).count 0 =
      machine.schedule.count 0 + 1 + 6 := by
    rw [List.count_append]
    rfl
  rw [formatFiles_eq, formatTogether_eq, Batch.start, List.map_singleton, Batch.run_lone, hturns,
    actFor_arriving, hfile]
  rfl

end CodeFormatting.Files
