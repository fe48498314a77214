import CodeFormatting.Proofs.Files.Initialization
import CodeFormatting.Proofs.Files.Repeated
namespace CodeFormatting

theorem Step.settled_of_outcome {World : Type} {step : Step World}
    {outcome : Except StepError (Engine World)} (hsettled : step.outcome = some outcome) :
    step.settled outcome = step := by
  cases step
  cases hsettled
  rfl

namespace Files

/-! Formatting the same files again. When the tasks of a run have followed one another, each
file is at rest: it cannot be read, or its text is refused, or is formatted already. Then
no later run finds anything to write. -/

variable {mode : Mode} {answer : String → Except FormatError String} {path other : Path}
  {paths : List Path} {step made : Step Machine} {stage later : Stage Machine}
  {tasks : List (Task Machine)} {index : Nat} {machine next origin : Machine}
  {batch : Batch Machine} {reports : List Report} {schedule order : List Nat}
  {reported : Except FileError Outcome} {content text : String}
  {outcome : Except StepError (Engine Machine)}

/-- The schedule under which the tasks follow one another in some order. -/
def inOrder (order : List Nat) : List Nat :=
  order.flatMap (List.replicate 6)

/-- If the text of a file can be formatted, it is formatted. -/
def AtRest (answer : String → Except FormatError String) (machine : Machine) (path : Path) : Prop :=
  ∀ content text, machine.readText path = .ok content → answer content = .ok text → text = content

/-- What there is to be said of a file for which an outcome has been reported. -/
inductive Ended (answer : String → Except FormatError String) (machine : Machine) (path : Path) :
    Except FileError Outcome → Prop
  | formatted {content : String} {outcome : Outcome} (hread : machine.readText path = .ok content)
      (hanswer : answer content = .ok content) : Ended answer machine path (.ok outcome)
  | unreadable {error : IoError} (hread : machine.readText path = .error error) :
      Ended answer machine path (.error (.read path error))
  | rejected {content : String} {error : FormatError}
      (hread : machine.readText path = .ok content) (hanswer : answer content = .error error) :
      Ended answer machine path (.error (.format path error))
  | unwritten {cause : IoError} : Ended answer machine path (.error (.write path cause))

/-- What is reported of a file in a later run. -/
def Report.repeated (report : Report) : Report :=
  ⟨report.path, report.outcome.map fun _ => .unchanged⟩

/-- The step and the machine after any number of further runs over the same files. -/
inductive Rounds (paths : List Path) (step : Step Machine) (machine : Machine) :
    Step Machine → Machine → Prop
  | none : Rounds paths step machine step machine
  | more {now : Step Machine} {last next : Machine} {mode : Mode} {schedule : List Nat}
      {batch : Batch Machine} (hrounds : Rounds paths step machine now last)
      (hrun : formatTogether mode paths now schedule last = (batch, next)) :
      Rounds paths step machine batch.cell.step next

/-! Tasks that follow one another in any order. -/

/-- The tasks that have had their turn have ended, and the others have not begun. -/
def Halted (turns : List Nat) (tasks : List (Task Machine)) : Prop :=
  ∀ index task, tasks[index]? = some task →
    (∃ outcome, task.stage = .finished outcome) ∨ task.stage = .arriving ∧ index ∉ turns

theorem Halted.set {turns : List Nat} (hhalted : Halted turns tasks) (index : Nat) (path : Path)
    (outcome : Except FileError Outcome) :
    Halted (turns ++ [index]) (tasks.set index ⟨path, .finished outcome⟩) := by
  intro place task hplace
  rw [List.getElem?_set] at hplace
  split at hplace
  · split at hplace
    · cases hplace
      exact .inl ⟨outcome, rfl⟩
    · cases hplace
  · next hne =>
      refine (hhalted place task hplace).imp_right fun ⟨harriving, hunturned⟩ => ⟨harriving, ?_⟩
      intro hturned
      rcases List.mem_append.mp hturned with hturned | hturned
      · exact hunturned hturned
      · exact hne (List.mem_singleton.mp hturned).symm

theorem halted_start (paths : List Path) (step : Step Machine) :
    Halted [] (Batch.start paths step).tasks := by
  intro index task hindex
  exact .inr ⟨arriving_of_mem_start (List.mem_of_getElem? hindex), List.not_mem_nil⟩

section Turns

variable (Holds : Step Machine → List (Task Machine) → Machine → Prop)
  (hfile : ∀ {step made : Step Machine} {tasks : List (Task Machine)} {machine next : Machine}
    {index : Nat} {path : Path} {outcome : Except FileError Outcome}, Holds step tasks machine →
    tasks[index]? = some ⟨path, .arriving⟩ →
    formatFile mode path step machine = ((outcome, made), next) →
    Holds made (tasks.set index ⟨path, .finished outcome⟩) next)

include hfile

theorem Halted.turn {turns : List Nat} (hhalted : Halted turns tasks)
    (hholds : Holds step tasks machine) (hindex : index < tasks.length) :
    ∃ path outcome made next,
      Batch.run mode ⟨⟨step, false⟩, tasks⟩ (List.replicate 6 index) machine =
        (⟨⟨made, false⟩, tasks.set index ⟨path, .finished outcome⟩⟩, next) ∧
      Holds made (tasks.set index ⟨path, .finished outcome⟩) next := by
  obtain ⟨⟨path, stage⟩, htask⟩ : ∃ task, tasks[index]? = some task :=
    ⟨_, List.getElem?_eq_getElem hindex⟩
  rw [Batch.run_replicate htask]
  rcases hhalted index _ htask with ⟨outcome, hended⟩ | ⟨harriving, -⟩
  · obtain rfl : stage = .finished outcome := hended
    refine ⟨path, outcome, step, machine, by rw [actFor_finished], ?_⟩
    rwa [set_of_getElem? htask]
  · obtain rfl : stage = .arriving := harriving
    rcases hformat : formatFile mode path step machine with ⟨⟨outcome, made⟩, next⟩
    exact ⟨path, outcome, made, next, by rw [actFor_six, hformat], hfile hholds htask hformat⟩

/-- What formatting any one file preserves, a run preserves whose tasks follow one another. -/
theorem run_inOrder {turns : List Nat} (hhalted : Halted turns tasks)
    (hholds : Holds step tasks machine) (hbound : ∀ index ∈ order, index < tasks.length) :
    ∃ made ended next, Batch.run mode ⟨⟨step, false⟩, tasks⟩ (inOrder order) machine =
        (⟨⟨made, false⟩, ended⟩, next) ∧
      Halted (turns ++ order) ended ∧ Holds made ended next := by
  induction order generalizing turns step tasks machine with
  | nil => exact ⟨step, tasks, machine, rfl, by rwa [List.append_nil], hholds⟩
  | cons index rest induction =>
      obtain ⟨path, outcome, made, next, hrun, hlater⟩ :=
        hhalted.turn Holds hfile hholds (hbound index List.mem_cons_self)
      obtain ⟨last, ended, final, hrest, hended⟩ :=
        induction (hhalted.set index path outcome) hlater fun other hother => by
          rw [List.length_set]
          exact hbound other (List.mem_cons_of_mem _ hother)
      rw [List.append_assoc, List.singleton_append] at hended
      refine ⟨last, ended, final, ?_, hended⟩
      rw [inOrder, List.flatMap_cons, Batch.run_append, hrun]
      exact hrest

/-- Under such a schedule all tasks come to their ends. -/
theorem formatTogether_inOrder (hperm : order.Perm (List.range paths.length))
    (hstart : Holds step (Batch.start paths step).tasks (begun mode paths step machine)) :
    ∃ batch reports next, formatTogether mode paths step (inOrder order) machine = (batch, next) ∧
      batch.reports? = some reports ∧ Holds batch.cell.step batch.tasks next := by
  have hlength : (Batch.start paths step).tasks.length = paths.length := List.length_map _
  obtain ⟨made, ended, next, hrun, hhalted, hholds⟩ :=
    run_inOrder Holds hfile (halted_start paths step) hstart fun index hindex => by
      rw [hlength]
      exact List.mem_range.mp (hperm.mem_iff.mp hindex)
  have hrun : formatTogether mode paths step (inOrder order) machine =
      (⟨⟨made, false⟩, ended⟩, next) := hrun
  have hpaths := paths_tasks_formatTogether hrun
  obtain ⟨reports, hreports⟩ : ∃ reports, Batch.reports? ⟨⟨made, false⟩, ended⟩ = some reports := by
    refine Batch.exists_reports fun task hmem => ?_
    obtain ⟨index, hindex⟩ := List.mem_iff_getElem?.mp hmem
    rcases hhalted index task hindex with hended | ⟨-, hunturned⟩
    · exact hended
    · refine absurd (hperm.mem_iff.mpr (List.mem_range.mpr ?_)) hunturned
      rw [← hpaths, List.length_map]
      exact (List.getElem?_eq_some_iff.mp hindex).1
  exact ⟨_, reports, next, hrun, hreports, hholds⟩

end Turns

/-! What one file comes to, and what that is for the others. -/

theorem AtRest.expected_snd (hrest : AtRest answer machine path) (mode : Mode) :
    (expected mode answer machine path).2 = machine.files := by
  simp only [expected, Stage.ending]
  cases hread : machine.files.readText machine.location path with
  | error error => rfl
  | ok content =>
      simp only [formatEnd]
      cases hanswer : answer content with
      | error error => rfl
      | ok text =>
          simp only [settleEnd, if_pos (hrest content text hread hanswer)]

theorem Ended.atRest (hended : Ended answer machine path reported)
    (hwritten : ∀ cause, reported ≠ .error (.write path cause)) : AtRest answer machine path := by
  intro content text hread hanswer
  cases hended with
  | formatted hheld hkept =>
      cases hheld.symm.trans hread
      exact Except.ok.inj (hanswer.symm.trans hkept)
  | unreadable hunreadable => cases hunreadable.symm.trans hread
  | rejected hheld hrejected =>
      cases hheld.symm.trans hread
      cases hrejected.symm.trans hanswer
  | unwritten => exact absurd rfl (hwritten _)

theorem Ended.of_readText (hended : Ended answer machine path reported)
    (hsame : next.readText path = machine.readText path) : Ended answer next path reported := by
  cases hended with
  | formatted hread hanswer => exact .formatted (hsame.trans hread) hanswer
  | unreadable hread => exact .unreadable (hsame.trans hread)
  | rejected hread hanswer => exact .rejected (hsame.trans hread) hanswer
  | unwritten => exact .unwritten

theorem Ended.expected_fst (hended : Ended answer machine path reported)
    (hwritten : ∀ cause, reported ≠ .error (.write path cause)) (mode : Mode) :
    (expected mode answer machine path).1 = reported.map fun _ => .unchanged := by
  simp only [expected, Stage.ending]
  cases hended with
  | formatted hread hanswer =>
      rw [Machine.readText] at hread
      simp only [hread, formatEnd, hanswer, settleEnd, if_true]
      rfl
  | unreadable hread =>
      rw [Machine.readText] at hread
      simp only [hread]
      rfl
  | rejected hread hanswer =>
      rw [Machine.readText] at hread
      simp only [hread, formatEnd, hanswer]
      rfl
  | unwritten => exact absurd rfl (hwritten _)

theorem readText_eq_of_locate {location : Location} (hpath : machine.locate path = .ok location)
    (hother : machine.locate other = .ok location) :
    machine.readText path = machine.readText other := by
  rw [Machine.locate] at hpath hother
  simp only [Machine.readText, FileSystem.readText, FileSystem.read, hpath, hother]

section Following

variable {steady : Steady step paths} (hmoment : steady.Moment machine) (hfew : [path] ⊆ paths)
  {outcome : Except FileError Outcome}
  (hfile : formatFile .write path step machine = ((outcome, made), next))

include hmoment hfew hfile

/-- A file that is at rest is left alone when another one is formatted, even if the two are
the same. -/
theorem AtRest.readText_eq (hrest : AtRest steady.answer machine other) :
    next.readText other = machine.readText other := by
  obtain ⟨hsound, -, hnode⟩ := formatFile_sound steady hmoment hfew hfile
  have hkept : ∀ location, machine.locate other = .ok location →
      next.files.node location = machine.files.node location := by
    intro location hother
    by_cases hpath : machine.locate path = .ok location
    · have hsame := readText_eq_of_locate hpath hother
      have hresting : AtRest steady.answer machine path := by rwa [AtRest, hsame]
      rw [hnode location hpath, hresting.expected_snd]
    · exact hsound.outside location (by simpa using hpath)
  rw [Machine.readText, hsound.location_eq, hsound.files.readText hkept, Machine.readText]

theorem Ended.keep (hended : Ended steady.answer machine other reported) :
    Ended steady.answer next other reported := by
  by_cases hunwritten : ∃ cause, reported = .error (.write other cause)
  · obtain ⟨cause, rfl⟩ := hunwritten
    exact .unwritten
  · have hrest := hended.atRest fun cause hreported => hunwritten ⟨cause, hreported⟩
    exact hended.of_readText (hrest.readText_eq hmoment hfew hfile)

theorem ended_formatFile
    (hidempotent : ∀ input text, steady.answer input = .ok text → steady.answer text = .ok text) :
    Ended steady.answer next path outcome := by
  obtain ⟨hsound, houtcome, hnode⟩ := formatFile_sound steady hmoment hfew hfile
  by_cases hrest : AtRest steady.answer machine path
  -- nothing was written, and the file is still what it was
  · refine Ended.keep hmoment hfew hfile ?_
    simp only [expected, Stage.ending] at houtcome
    cases hread : machine.files.readText machine.location path with
    | error error =>
        simp only [hread] at houtcome
        exact houtcome ▸ .unreadable hread
    | ok content =>
        simp only [hread, formatEnd] at houtcome
        cases hanswer : steady.answer content with
        | error error =>
            simp only [hanswer] at houtcome
            exact houtcome ▸ .rejected hread hanswer
        | ok text =>
            obtain rfl := hrest content text hread hanswer
            simp only [hanswer, settleEnd, if_true] at houtcome
            exact houtcome ▸ .formatted hread hanswer
  · simp only [AtRest, Classical.not_forall] at hrest
    obtain ⟨content, text, hread, hanswer, hchanged⟩ := hrest
    have hwrite : expected .write steady.answer machine path =
        writeEnd machine.location path text machine.files := by
      rw [Machine.readText] at hread
      simp only [expected, Stage.ending, hread, formatEnd, hanswer, settleEnd, if_neg hchanged]
    rcases writeEnd_fst machine.location path text machine.files with hformatted | ⟨cause, hfailed⟩
    · rw [← hwrite] at hformatted
      obtain ⟨held, final, location, executable, hheld, hfinal, -, hlocate, hreadable, hholds⟩ :=
        expected_of_formatted hformatted
      obtain rfl := houtcome.trans hformatted
      have hplace := (hsound.locate_eq path).trans hlocate
      refine .formatted ?_ (hidempotent held final hfinal)
      refine FileSystem.readText_eq_ok_iff.mpr ⟨location, executable, hplace, ?_, ?_⟩
      · exact (hnode location hlocate).trans hholds
      · rw [hsound.files.refusesRead, hreadable]
    · rw [← hwrite] at hfailed
      obtain rfl := houtcome.trans hfailed
      exact .unwritten

end Following

/-! The first run. -/

/-- Before the step has an outcome nothing has changed, and after that every task that has ended
has brought its file to rest. -/
inductive Settling {outcome : Except StepError (Engine Machine)}
    (steady : Steady (step.settled outcome) paths) (origin : Machine) :
    Step Machine → List (Task Machine) → Machine → Prop
  | fresh {tasks : List (Task Machine)} (hfresh : step.outcome = none)
      (hearly : AllEarly origin tasks) :
      Settling steady origin step tasks origin
  | settled {tasks : List (Task Machine)} {machine : Machine} (hmoment : steady.Moment machine)
      (hended : ∀ path reported, ⟨path, .finished reported⟩ ∈ tasks →
        Ended steady.answer machine path reported) :
      Settling steady origin (step.settled outcome) tasks machine

theorem formatFile_of_fresh (hfresh : step.outcome = none)
    (hread : machine.readText path = .ok content) (hquiet : Quiet machine (step.resolve machine).2)
    (mode : Mode) :
    formatFile mode path step machine =
      formatFile mode path (step.settled (step.resolve machine).1.1) (step.resolve machine).2 := by
  rw [Step.resolve_of_fresh hfresh] at hquiet ⊢
  rcases hinitializer : step.initializer machine with ⟨outcome, ready⟩
  rw [hinitializer] at hquiet
  have hready := (hquiet.readText_eq path).trans hread
  have hformat := Step.format_of_fresh hfresh hinitializer content
  have hlater := Step.format_of_outcome (Step.outcome_settled step outcome) content ready
  rcases happlied : Step.applied outcome content ready with ⟨error | text, next⟩
  · rw [happlied] at hformat hlater
    rw [formatFile_of_rejected hread hformat, formatFile_of_rejected hready hlater]
  · rw [happlied] at hformat hlater
    rw [formatFile_of_formatted hread hformat, formatFile_of_formatted hready hlater]

section Settling

variable {steady : Steady (step.settled outcome) paths}
  (hidempotent : ∀ input text, steady.answer input = .ok text → steady.answer text = .ok text)

include hidempotent

theorem settling_of_formatFile {reported : Except FileError Outcome}
    (hmoment : steady.Moment machine)
    (hended : ∀ path reported, ⟨path, .finished reported⟩ ∈ tasks →
      Ended steady.answer machine path reported) (hpath : path ∈ paths)
    (hfile : formatFile .write path (step.settled outcome) machine = ((reported, made), next)) :
    Settling steady origin made (tasks.set index ⟨path, .finished reported⟩) next := by
  have hfew : [path] ⊆ paths := by simpa using hpath
  obtain ⟨hsound, -⟩ := formatFile_sound steady hmoment hfew hfile
  obtain rfl : made = step.settled outcome := by
    rcases hsound.step with hsame | hsettled
    · exact hsame
    · exact hsettled.trans (congrArg _ (steady.settled outcome rfl).symm)
  refine .settled hsound.moment fun other earlier hmem => ?_
  rcases List.mem_or_eq_of_mem_set hmem with hmem | hsame
  · exact (hended other earlier hmem).keep hmoment hfew hfile
  · cases hsame
    exact ended_formatFile hmoment hfew hfile hidempotent

theorem Settling.set {now : Step Machine} {reported : Except FileError Outcome}
    (houtcome : (step.resolve origin).1.1 = outcome)
    (hquiet : Quiet origin (step.resolve origin).2)
    (hmoment : steady.Moment (step.resolve origin).2)
    (hsettling : Settling steady origin now tasks machine) (hpath : path ∈ paths)
    (hfile : formatFile .write path now machine = ((reported, made), next)) :
    Settling steady origin made (tasks.set index ⟨path, .finished reported⟩) next := by
  cases hsettling with
  | fresh hfresh hearly =>
      cases hread : machine.readText path with
      | error error =>
          rw [formatFile_of_unreadable hread] at hfile
          cases hfile
          exact .fresh hfresh (hearly.set (.unreadable hread) index)
      | ok content =>
          rw [formatFile_of_fresh hfresh hread hquiet, houtcome] at hfile
          refine settling_of_formatFile hidempotent hmoment ?_ hpath hfile
          -- the initializer runs now, and what has ended before it could not be read
          intro other earlier hmem
          have hearlier : Early machine other (.finished earlier) := hearly _ hmem
          cases hearlier with
          | unreadable hunreadable =>
              exact .unreadable ((hquiet.readText_eq other).trans hunreadable)
  | settled hsettled hended => exact settling_of_formatFile hidempotent hsettled hended hpath hfile

end Settling

theorem settling_start {steady : Steady (step.settled outcome) paths}
    (houtcome : (step.resolve origin).1.1 = outcome)
    (hmoment : steady.Moment (step.resolve origin).2) :
    Settling steady origin step (Batch.start paths step).tasks origin := by
  cases hsettled : step.outcome with
  | none => exact .fresh hsettled (allEarly_start paths step origin)
  | some earlier =>
      rw [Step.resolve_of_outcome hsettled] at houtcome hmoment
      obtain rfl : earlier = outcome := houtcome
      have hsettling : Settling steady origin (step.settled earlier)
          (Batch.start paths step).tasks origin := by
        refine .settled hmoment fun path reported hmem => ?_
        cases arriving_of_mem_start hmem
      rwa [Step.settled_of_outcome hsettled] at hsettling

/-- The first run comes to its end, and then it has brought every file to its own. -/
theorem settling_run {steady : Steady (step.settled outcome) paths}
    (hresolve : step.resolve (begun .write paths step machine) = ((outcome, made), next))
    (hquiet : Quiet (begun .write paths step machine) next) (hmoment : steady.Moment next)
    (hidempotent : ∀ input text, steady.answer input = .ok text → steady.answer text = .ok text)
    (hperm : order.Perm (List.range paths.length)) :
    ∃ batch reports after,
      formatTogether .write paths step (inOrder order) machine = (batch, after) ∧
        batch.reports? = some reports ∧
        Settling steady (begun .write paths step machine) batch.cell.step batch.tasks after := by
  have houtcome : (step.resolve (begun .write paths step machine)).1.1 = outcome := by
    rw [hresolve]
  have hready : (step.resolve (begun .write paths step machine)).2 = next := by
    rw [hresolve]
  rw [← hready] at hquiet hmoment
  obtain ⟨batch, reports, after, hrun, hreports, -, hsettling⟩ := formatTogether_inOrder
    (fun now tasks current => tasks.map Task.path = paths ∧
      Settling steady (begun .write paths step machine) now tasks current)
    (by
      rintro now made tasks current next index path reported ⟨hpaths, hsettling⟩ hindex hfile
      have hpath : path ∈ paths := by
        rw [← hpaths]
        exact List.mem_map.mpr ⟨_, List.mem_of_getElem? hindex, rfl⟩
      refine ⟨(paths_set hindex _).trans hpaths, ?_⟩
      exact hsettling.set hidempotent houtcome hquiet hmoment hpath hfile)
    hperm ⟨by simp [Batch.start, Function.comp_def], settling_start houtcome hmoment⟩
  exact ⟨batch, reports, after, hrun, hreports, hsettling⟩

/-! Further runs. -/

theorem Moves.files_eq {directory : Location} {files after : FileSystem}
    (hmoves : Moves mode answer directory path stage files later after)
    (hformatted : (stage.ending mode answer directory path files).1 ≠ .ok .formatted)
    (hwritten : ∀ cause,
      (stage.ending mode answer directory path files).1 ≠ .error (.write path cause)) :
    after = files := by
  cases hmoves with
  | @empty _ _ text _ _ _ hchanged hmode hnames hallowed =>
      simp only [Stage.ending, settleEnd, if_neg hchanged, hmode] at hformatted hwritten
      rcases writeEnd_fst directory path text files with hdone | ⟨cause, hfailed⟩
      · exact absurd hdone hformatted
      · exact absurd hfailed (hwritten cause)
  | cut hnames hrefused =>
      simp only [Stage.ending, fillEnd_of_refused hrefused] at hwritten
      exact absurd rfl (hwritten _)
  | fill hnames haccepted =>
      simp only [Stage.ending, fillEnd_of_accepted haccepted] at hformatted
      exact absurd rfl hformatted
  | _ => rfl

theorem AtRest.expected_fst (hrest : AtRest answer machine path) (mode : Mode) :
    (expected mode answer machine path).1 ≠ .ok .formatted ∧
      ∀ cause, (expected mode answer machine path).1 ≠ .error (.write path cause) := by
  simp only [expected, Stage.ending]
  cases hread : machine.files.readText machine.location path with
  | error error => simp
  | ok content =>
      simp only [formatEnd]
      cases hanswer : answer content with
      | error error => simp
      | ok text => simp [settleEnd, hrest content text hread hanswer]

/-- When all files are at rest a run changes none of them, whatever the order in which its
tasks act. -/
theorem still_run (steady : Steady step paths) (hmoment : steady.Moment machine)
    (hrest : ∀ path ∈ paths, AtRest steady.answer machine path)
    (hrun : formatTogether mode paths step schedule machine = (batch, next)) :
    Quiet machine next ∧ ∀ reports, batch.reports? = some reports →
      reports = paths.map fun path => ⟨path, (expected mode steady.answer machine path).1⟩ := by
  have hsound := sound_formatTogether hmoment hrun
  obtain ⟨rfl, rfl⟩ := Prod.mk.inj hrun.symm
  obtain ⟨-, hfiles, hends⟩ := Sound.run
    (fun tasks files => files = machine.files ∧ ∀ task ∈ tasks,
      (task.stage.ending mode steady.answer machine.location task.path machine.files).1 =
        (expected mode steady.answer machine task.path).1)
    (by
      rintro cell tasks now index path stage later files hsound ⟨hsame, hends⟩ hindex hmoves
      have hend := hends _ (List.mem_of_getElem? hindex)
      obtain ⟨hformatted, hwritten⟩ :=
        (hrest path (hsound.path_mem hindex)).expected_fst mode
      rw [hsame] at hmoves
      rw [← hend] at hformatted hwritten
      have hkept := hmoves.files_eq hformatted hwritten
      have hending := congrArg Prod.fst hmoves.ending_eq
      rw [hkept] at hending
      exact ⟨hkept, forall_mem_set hends (hending.trans hend) index⟩)
    (sound_start (steady.record _ _ hmoment) (quiet_record machine _))
    ⟨rfl, fun task hmem => by rw [arriving_of_mem_start hmem, expected]⟩ schedule
  refine ⟨⟨hfiles, hsound.directory⟩, fun reports hreports =>
    reports_eq_map (hsound.paths_eq hreports) fun report hmem => ?_⟩
  exact hends report.task (task_mem_of_reports hreports hmem)

theorem Course.of_unreadable {outcomes : List (Except StepError (Engine Machine))}
    (hcourse : Course step origin outcomes batch machine) (hfresh : step.outcome = none)
    (hunreadable : ∀ path ∈ batch.tasks.map Task.path,
      ∃ error, origin.readText path = .error error) :
    machine = origin ∧ batch.cell.step = step ∧ AllEarly origin batch.tasks := by
  cases hcourse with
  | settled hsettled hidle => cases hfresh.symm.trans hsettled
  | fresh hfresh hidle hearly => exact ⟨rfl, rfl, hearly⟩
  | claimed hfresh hplace hidle hearly => exact ⟨rfl, rfl, hearly⟩
  | initialized hfresh hreadable hidle =>
      obtain ⟨path, hpath, content, hread⟩ := hreadable
      obtain ⟨error, herror⟩ := hunreadable path hpath
      cases herror.symm.trans hread

/-- Nor does it if none of them can be read, and then the step is left alone too. -/
theorem unreadable_run (answer : String → Except FormatError String) (hfresh : step.outcome = none)
    (hunreadable : ∀ path ∈ paths, ∃ error, machine.readText path = .error error)
    (hrun : formatTogether mode paths step schedule machine = (batch, next)) :
    batch.cell.step = step ∧ Quiet machine next ∧ ∀ reports, batch.reports? = some reports →
      reports = paths.map fun path => ⟨path, (expected mode answer machine path).1⟩ := by
  have hcourse := course_run mode paths step schedule machine
  rw [hrun] at hcourse
  obtain ⟨hnext, hstep, hearly⟩ :=
    hcourse.of_unreadable hfresh (by rwa [paths_tasks_formatTogether hrun])
  obtain rfl : next = begun mode paths step machine := hnext
  refine ⟨hstep, quiet_record machine _, fun reports hreports =>
    reports_eq_map (paths_reports_formatTogether hrun hreports) fun report hmem => ?_⟩
  have hstage : Early _ report.path (.finished report.outcome) :=
    hearly _ (task_mem_of_reports hreports hmem)
  generalize report.outcome = reported at hstage
  cases hstage with
  | unreadable hread =>
      have hread : machine.files.readText machine.location report.path = .error _ := hread
      simp only [expected, Stage.ending, hread]

/-- After the first run every file has come to its end. The step has its outcome, unless no file
can be read. -/
structure Converged {outcome : Except StepError (Engine Machine)}
    (steady : Steady (step.settled outcome) paths) (reports : List Report) (now : Step Machine)
    (machine : Machine) : Prop where
  ended : ∀ path reported, ⟨path, reported⟩ ∈ reports → Ended steady.answer machine path reported
  step : now = step.settled outcome ∧ steady.Moment machine ∨
    now = step ∧ step.outcome = none ∧ ∀ path ∈ paths, ∃ error, machine.readText path = .error error

section Converged

variable {steady : Steady (step.settled outcome) paths} {now : Step Machine}

theorem Settling.converged (hsettling : Settling steady origin now tasks machine)
    (htasks : tasks = reports.map Report.task) (hpaths : reports.map Report.path = paths) :
    Converged steady reports now machine := by
  have hstage {path : Path} {reported : Except FileError Outcome}
      (hmem : ⟨path, reported⟩ ∈ reports) : ⟨path, .finished reported⟩ ∈ tasks := by
    rw [htasks]
    exact List.mem_map.mpr ⟨_, hmem, rfl⟩
  cases hsettling with
  | fresh hfresh hearly =>
      have hended {path : Path} {reported : Except FileError Outcome}
          (hmem : ⟨path, reported⟩ ∈ reports) : Early machine path (.finished reported) :=
        hearly _ (hstage hmem)
      refine ⟨fun path reported hmem => ?_, .inr ⟨rfl, hfresh, ?_⟩⟩
      · cases hended hmem with
        | unreadable hread => exact .unreadable hread
      · rw [← hpaths]
        intro path hpath
        obtain ⟨report, hmem, rfl⟩ := List.mem_map.mp hpath
        exact (hended hmem).exists_error
  | settled hmoment hended =>
      exact ⟨fun path reported hmem => hended path reported (hstage hmem), .inl ⟨rfl, hmoment⟩⟩

/-- A further run changes no file and repeats the reports. -/
theorem Converged.run (hconverged : Converged steady reports now machine)
    (hpaths : reports.map Report.path = paths)
    (hwritten : ∀ path cause, ⟨path, .error (.write path cause)⟩ ∉ reports)
    (hrun : formatTogether mode paths now schedule machine = (batch, next)) :
    Quiet machine next ∧ Converged steady reports batch.cell.step next ∧
      ∀ repeated, batch.reports? = some repeated → repeated = reports.map Report.repeated := by
  have hunwritten {path : Path} {reported : Except FileError Outcome}
      (hmem : ⟨path, reported⟩ ∈ reports) (cause : IoError) :
      reported ≠ .error (.write path cause) := by
    rintro rfl
    exact hwritten path cause hmem
  subst hpaths
  have hrest : ∀ path ∈ reports.map Report.path, AtRest steady.answer machine path := by
    intro path hpath
    obtain ⟨report, hmem, rfl⟩ := List.mem_map.mp hpath
    exact (hconverged.ended _ _ hmem).atRest (hunwritten hmem)
  have hrepeated : (reports.map Report.path).map
      (fun path => ⟨path, (expected mode steady.answer machine path).1⟩) =
        reports.map Report.repeated := by
    rw [List.map_map]
    refine List.map_congr_left fun report hmem => congrArg (Report.mk report.path) ?_
    exact (hconverged.ended _ _ hmem).expected_fst (hunwritten hmem) mode
  have hended {next : Machine} (hquiet : Quiet machine next) (path : Path)
      (reported : Except FileError Outcome) (hmem : ⟨path, reported⟩ ∈ reports) :
      Ended steady.answer next path reported :=
    (hconverged.ended path reported hmem).of_readText (hquiet.readText_eq path)
  rcases hconverged.step with ⟨rfl, hmoment⟩ | ⟨rfl, hfresh, hunreadable⟩
  · have hsound := sound_formatTogether hmoment hrun
    obtain ⟨hquiet, hreported⟩ := still_run steady hmoment hrest hrun
    have hstep : batch.cell.step = step.settled outcome := by
      rcases hsound.step with hsame | hsettled
      · exact hsame
      · exact hsettled.trans (congrArg _ (steady.settled outcome rfl).symm)
    exact ⟨hquiet, ⟨hended hquiet, .inl ⟨hstep, hsound.moment⟩⟩,
      fun repeated hreports => (hreported repeated hreports).trans hrepeated⟩
  · obtain ⟨hstep, hquiet, hreported⟩ := unreadable_run steady.answer hfresh hunreadable hrun
    refine ⟨hquiet, ⟨hended hquiet, .inr ⟨hstep, hfresh, fun path hpath => ?_⟩⟩,
      fun repeated hreports => (hreported repeated hreports).trans hrepeated⟩
    rw [hquiet.readText_eq]
    exact hunreadable path hpath

theorem Converged.rounds {later : Step Machine} (hconverged : Converged steady reports now machine)
    (hpaths : reports.map Report.path = paths)
    (hwritten : ∀ path cause, ⟨path, .error (.write path cause)⟩ ∉ reports)
    (hrounds : Rounds paths now machine later next) :
    Quiet machine next ∧ Converged steady reports later next := by
  induction hrounds with
  | none => exact ⟨⟨rfl, rfl⟩, hconverged⟩
  | more hrounds hrun induction =>
      obtain ⟨hearlier, hreached⟩ := induction
      obtain ⟨hquiet, hlater, -⟩ := hreached.run hpaths hwritten hrun
      exact ⟨⟨hquiet.files.trans hearlier.files, hquiet.directory.trans hearlier.directory⟩, hlater⟩

end Converged

/-- Formatting converges. After one run in which the tasks follow one another, in whatever order,
and no write fails, no further run changes a file, and each repeats the reports of the first,
with nothing left to format. -/
theorem convergence_run (paths : List Path) (step : Step Machine) (machine : Machine)
    {outcome : Except StepError (Engine Machine)} {made : Step Machine} {ready : Machine}
    (hresolve : step.resolve (begun .write paths step machine) = ((outcome, made), ready))
    (hquiet : Quiet (begun .write paths step machine) ready)
    (steady : Steady (step.settled outcome) paths) (hmoment : steady.Moment ready)
    (hidempotent : ∀ input text, steady.answer input = .ok text → steady.answer text = .ok text)
    (order : List Nat) (hperm : order.Perm (List.range paths.length)) :
    ∃ batch reports after,
      formatTogether .write paths step (inOrder order) machine = (batch, after) ∧
      batch.reports? = some reports ∧
      ((∀ path cause, ⟨path, .error (.write path cause)⟩ ∉ reports) →
        ∀ now current, Rounds paths batch.cell.step after now current →
          current.files = after.files ∧
          (∀ mode, (formatFiles mode paths now current).1.1 = reports.map Report.repeated ∧
            (formatFiles mode paths now current).2.files = after.files) ∧
          (∀ mode order, order.Perm (List.range paths.length) →
            (formatTogether mode paths now (inOrder order) current).1.reports? =
              some (reports.map Report.repeated)) ∧
          ∀ mode schedule again next,
            formatTogether mode paths now schedule current = (again, next) →
            next.files = after.files ∧
            ∀ repeated, again.reports? = some repeated →
              repeated = reports.map Report.repeated) := by
  obtain ⟨batch, reports, after, hrun, hreports, hsettling⟩ :=
    settling_run hresolve hquiet hmoment hidempotent hperm
  have hpaths := paths_reports_formatTogether hrun hreports
  have hconverged := hsettling.converged (Batch.reports?_eq_some_iff.mp hreports) hpaths
  refine ⟨batch, reports, after, hrun, hreports, fun hwritten now current hrounds => ?_⟩
  obtain ⟨hearlier, hreached⟩ := hconverged.rounds hpaths hwritten hrounds
  have hagain {mode : Mode} {schedule : List Nat} {again : Batch Machine} {next : Machine}
      (hrun : formatTogether mode paths now schedule current = (again, next)) :
      next.files = after.files ∧ ∀ repeated, again.reports? = some repeated →
        repeated = reports.map Report.repeated := by
    obtain ⟨hquiet, -, hrepeated⟩ := hreached.run hpaths hwritten hrun
    exact ⟨hquiet.files.trans hearlier.files, hrepeated⟩
  refine ⟨hearlier.files, fun mode => ?_, fun mode order hperm => ?_, ?_⟩
  · rcases hfiles : formatFiles mode paths now current with ⟨⟨repeated, later⟩, next⟩
    obtain ⟨again, hrun, hmade, -⟩ := formatFiles_of_formatTogether hfiles
    exact ⟨(hagain hrun).2 repeated hmade, (hagain hrun).1⟩
  · obtain ⟨again, repeated, next, hrun, hmade, -⟩ := formatTogether_inOrder
      (fun _ _ _ => True) (fun _ _ _ => trivial) hperm trivial
    rw [hrun, hmade, (hagain hrun).2 repeated hmade]
  · exact fun mode schedule again next hrun => hagain hrun

theorem convergence_run_of_twice :
    let paths : List Path := [⟨"/a.kt"⟩, ⟨"/a.kt"⟩]
    ∃ batch after, formatTogether .write paths (Step.ofFunction fun _ => "y") (inOrder [1, 0])
        (oneFile "x" none) = (batch, after) ∧
      batch.reports? = some [⟨⟨"/a.kt"⟩, .ok .unchanged⟩, ⟨⟨"/a.kt"⟩, .ok .formatted⟩] ∧
      ∀ mode, (formatFiles mode paths batch.cell.step after).1.1 =
          [⟨⟨"/a.kt"⟩, .ok .unchanged⟩, ⟨⟨"/a.kt"⟩, .ok .unchanged⟩] ∧
        (formatFiles mode paths batch.cell.step after).2.files = after.files := by
  intro paths
  have hreported : (formatTogether .write paths (Step.ofFunction fun _ => "y") (inOrder [1, 0])
      (oneFile "x" none)).1.reports? =
        some [⟨⟨"/a.kt"⟩, .ok .unchanged⟩, ⟨⟨"/a.kt"⟩, .ok .formatted⟩] := by decide +kernel
  obtain ⟨batch, reports, after, hrun, hreports, hrounds⟩ := convergence_run paths
    (Step.ofFunction fun _ => "y") (oneFile "x" none) rfl ⟨rfl, rfl⟩
    (Steady.ofFunction (fun _ => "y") paths).resolved trivial (fun _ _ => id) [1, 0]
    (List.Perm.swap 0 1 [])
  rw [hrun, hreports] at hreported
  obtain rfl := Option.some.inj hreported
  obtain ⟨-, hagain, -⟩ := hrounds (by simp) _ _ .none
  exact ⟨batch, after, hrun, hreports, hagain⟩

end Files
end CodeFormatting
