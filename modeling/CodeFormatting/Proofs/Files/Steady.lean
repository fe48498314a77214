import CodeFormatting.Proofs.Files.Tasks
namespace CodeFormatting.Files

/-! Steps that answer the same at any time. Files that are formatted with such a step are
read and written as if there were nothing but the function that the step computes. -/

variable {mode : Mode} {path : Path} {paths : List Path} {step : Step Machine}
  {machine next origin : Machine} {location : Location}

/-- Neither the files nor the working directory have changed. -/
structure Quiet (machine next : Machine) : Prop where
  files : next.files = machine.files
  directory : next.directory = machine.directory

/-- What makes a step steady while some files are formatted with it. Its initializer, if it
has not run before, comes to the same outcome at every moment, and its engine computes a
function. Neither touches a file. A moment stays one when a record is written or one of the
files is given other octets. -/
structure Steady (step : Step Machine) (paths : List Path) where
  Moment : Machine → Prop
  outcome : Except StepError (Engine Machine)
  answer : String → Except FormatError String
  settled : ∀ earlier, step.outcome = some earlier → earlier = outcome
  initializer : step.outcome = none → ∀ machine, Moment machine →
    ∃ next, step.initializer machine = (outcome, next) ∧ Quiet machine next ∧ Moment next
  applied : ∀ input machine, Moment machine →
    ∃ next, Step.applied outcome input machine = (answer input, next) ∧ Quiet machine next ∧
      Moment next
  record : ∀ event machine, Moment machine → Moment (machine.record event)
  rewrite : ∀ path ∈ paths, ∀ machine location content executable (held : ByteArray),
    Moment machine → machine.locate path = .ok location →
    machine.files.node location = some (.file content executable) →
    Moment { machine with files := machine.files.put location (.file held executable) }

namespace Steady

/-- The paths can be fewer. -/
def restrict (steady : Steady step paths) {few : List Path} (hfew : few ⊆ paths) :
    Steady step few :=
  { steady with rewrite := fun path hpath => steady.rewrite path (hfew hpath) }

/-- The step stays steady once it has its outcome. -/
def resolved (steady : Steady step paths) : Steady (step.settled steady.outcome) paths :=
  { steady with
    settled := fun _ hsettled => (Option.some.inj hsettled).symm
    initializer := fun hfresh => by cases hfresh }

theorem format (steady : Steady step paths) (hmoment : steady.Moment machine) (input : String) :
    ∃ after next, step.format input machine = ((steady.answer input, after), next) ∧
      Quiet machine next ∧ steady.Moment next := by
  cases hsettled : step.outcome with
  | some earlier =>
      obtain rfl := steady.settled earlier hsettled
      obtain ⟨next, happlied, hquiet, hnext⟩ := steady.applied input machine hmoment
      rw [Step.format_of_outcome hsettled, happlied]
      exact ⟨step, next, rfl, hquiet, hnext⟩
  | none =>
      obtain ⟨made, hinitializer, hmade, hmiddle⟩ := steady.initializer hsettled machine hmoment
      obtain ⟨next, happlied, hquiet, hnext⟩ := steady.applied input made hmiddle
      rw [Step.format_of_fresh hsettled hinitializer, happlied]
      exact ⟨_, next, rfl, ⟨hquiet.files.trans hmade.files,
        hquiet.directory.trans hmade.directory⟩, hnext⟩

/-- A step that computes a function is steady at any moment. -/
def ofFunction (format : String → String) (paths : List Path) :
    Steady (Step.ofFunction format) paths where
  Moment _ := True
  outcome := .ok fun input machine => (.ok (format input), machine)
  answer input := .ok (format input)
  settled _ hsettled := by cases hsettled
  initializer _ machine _ := ⟨machine, rfl, ⟨rfl, rfl⟩, trivial⟩
  applied _ machine _ := ⟨machine, rfl, ⟨rfl, rfl⟩, trivial⟩
  record _ _ _ := trivial
  rewrite _ _ _ _ _ _ _ _ _ _ := trivial

end Steady

/-! What the actions of a task come to when the step is steady. -/

/-- The file that a path names. -/
def Names (files : FileSystem) (directory : Location) (path : Path) (location : Location)
    (content : ByteArray) (executable : Bool) : Prop :=
  files.locate directory path = .ok location ∧
    files.node location = some (.file content executable)

inductive Moves (mode : Mode) (answer : String → Except FormatError String)
    (directory : Location) (path : Path) :
    Stage Machine → FileSystem → Stage Machine → FileSystem → Prop
  | unreadable {files : FileSystem} {error : IoError}
      (hread : files.readText directory path = .error error) :
      Moves mode answer directory path .arriving files
        (.finished (.error (.read path error))) files
  | read {files : FileSystem} {content : String}
      (hread : files.readText directory path = .ok content) :
      Moves mode answer directory path .arriving files (.holding content .waiting) files
  | use {files : FileSystem} {content : String} {use later : Use Machine} :
      Moves mode answer directory path (.holding content use) files (.holding content later) files
  | reject {files : FileSystem} {content : String} {use : Use Machine} {error : FormatError}
      (hanswer : answer content = .error error) :
      Moves mode answer directory path (.holding content use) files
        (.finished (.error (.format path error))) files
  | format {files : FileSystem} {content text : String} {use : Use Machine}
      (hanswer : answer content = .ok text) :
      Moves mode answer directory path (.holding content use) files (.formatted content text) files
  | keep {files : FileSystem} {content : String} :
      Moves mode answer directory path (.formatted content content) files
        (.finished (.ok .unchanged)) files
  | report {files : FileSystem} {content text : String} (hchanged : text ≠ content)
      (hmode : mode = .check) :
      Moves mode answer directory path (.formatted content text) files
        (.finished (.ok .wouldFormat)) files
  | refuse {files : FileSystem} {content text : String} {location : Location} {held : ByteArray}
      {executable : Bool} {error : IoError} (hchanged : text ≠ content) (hmode : mode = .write)
      (hnames : Names files directory path location held executable)
      (hrefused : files.refusesOpen location = some error) :
      Moves mode answer directory path (.formatted content text) files
        (.finished (.error (.write path error))) files
  | empty {files : FileSystem} {content text : String} {location : Location} {held : ByteArray}
      {executable : Bool} (hchanged : text ≠ content) (hmode : mode = .write)
      (hnames : Names files directory path location held executable)
      (hallowed : files.refusesOpen location = none) :
      Moves mode answer directory path (.formatted content text) files (.filling location text)
        (files.put location (.file .empty executable))
  | cut {files : FileSystem} {text : String} {location : Location} {held : ByteArray}
      {executable : Bool} {refusal : Refusal}
      (hnames : Names files directory path location held executable)
      (hrefused : files.refusesWrite location = some refusal) :
      Moves mode answer directory path (.filling location text) files
        (.finished (.error (.write path refusal.error)))
        (files.put location (.file
          (FileSystem.overwritten held (text.toUTF8.extract 0 refusal.taken)) executable))
  | fill {files : FileSystem} {text : String} {location : Location} {held : ByteArray}
      {executable : Bool} (hnames : Names files directory path location held executable)
      (haccepted : files.refusesWrite location = none) :
      Moves mode answer directory path (.filling location text) files
        (.finished (.ok .formatted))
        (files.put location (.file (FileSystem.overwritten held text.toUTF8) executable))
  | rest {files : FileSystem} {outcome : Except FileError Outcome} :
      Moves mode answer directory path (.finished outcome) files (.finished outcome) files

variable {answer : String → Except FormatError String} {directory : Location}
  {stage later : Stage Machine} {files after : FileSystem}

/-- A move rewrites the file of its own path or leaves the files alone. -/
theorem Moves.rewritten
    (hmoves : Moves mode answer directory path stage files later after) :
    after = files ∨ ∃ location content executable held,
      Names files directory path location content executable ∧
        after = files.put location (.file held executable) := by
  cases hmoves with
  | empty hchanged hmode hnames hallowed => exact .inr ⟨_, _, _, _, hnames, rfl⟩
  | cut hnames hrefused => exact .inr ⟨_, _, _, _, hnames, rfl⟩
  | fill hnames haccepted => exact .inr ⟨_, _, _, _, hnames, rfl⟩
  | _ => exact .inl rfl

theorem Moves.alike (hmoves : Moves mode answer directory path stage files later after) :
    files.Alike after := by
  rcases hmoves.rewritten with rfl | ⟨location, content, executable, held, ⟨-, hnode⟩, rfl⟩
  · exact .refl _
  · exact FileSystem.alike_put hnode held

theorem Moves.node_eq (hmoves : Moves mode answer directory path stage files later after)
    (hother : files.locate directory path ≠ .ok location) :
    after.node location = files.node location := by
  rcases hmoves.rewritten with rfl | ⟨place, content, executable, held, ⟨hlocate, -⟩, rfl⟩
  · rfl
  · refine FileSystem.node_put_of_ne _ _ ?_
    rintro rfl
    exact hother hlocate

/-! A batch whose step is steady. -/

variable {steady : Steady step paths} {cell made : Cell Machine} {tasks : List (Task Machine)}
  {index : Nat}

/-- Where a task can be. One that has read its file knows that there is one. -/
inductive Placed (steady : Steady step paths) (origin : Machine) (path : Path) :
    Stage Machine → Prop
  | arriving : Placed steady origin path .arriving
  | waiting {location : Location} {held : ByteArray} {executable : Bool} {content : String}
      (hnames : Names origin.files origin.location path location held executable) :
      Placed steady origin path (.holding content .waiting)
  | initializing {location : Location} {held : ByteArray} {executable : Bool} {content : String}
      (hnames : Names origin.files origin.location path location held executable)
      (hfresh : step.outcome = none) : Placed steady origin path (.holding content .initializing)
  | resolved {location : Location} {held : ByteArray} {executable : Bool} {content : String}
      (hnames : Names origin.files origin.location path location held executable) :
      Placed steady origin path (.holding content (.resolved steady.outcome))
  | formatted {location : Location} {held : ByteArray} {executable : Bool}
      {content text : String}
      (hnames : Names origin.files origin.location path location held executable) :
      Placed steady origin path (.formatted content text)
  | filling {location : Location} {held : ByteArray} {executable : Bool} {text : String}
      (hnames : Names origin.files origin.location path location held executable) :
      Placed steady origin path (.filling location text)
  | finished (outcome : Except FileError Outcome) : Placed steady origin path (.finished outcome)

structure Sound (steady : Steady step paths) (origin : Machine) (batch : Batch Machine)
    (machine : Machine) : Prop where
  moment : steady.Moment machine
  directory : machine.directory = origin.directory
  files : origin.files.Alike machine.files
  outside : ∀ location, (∀ path ∈ paths, origin.locate path ≠ .ok location) →
    machine.files.node location = origin.files.node location
  step : batch.cell.step = step ∨ batch.cell.step = step.settled steady.outcome
  paths : batch.tasks.map Task.path = paths
  placed : ∀ (index : Nat) path stage, batch.tasks[index]? = some ⟨path, stage⟩ →
    Placed steady origin path stage

theorem Names.of_alike {held : ByteArray} {executable : Bool}
    (hnames : Names files directory path location held executable) (halike : files.Alike after) :
    ∃ content, Names after directory path location content executable := by
  obtain ⟨content, hnode⟩ := halike.exists_file hnames.2
  exact ⟨content, (halike.locate directory path).trans hnames.1, hnode⟩

theorem Quiet.location_eq (hquiet : Quiet machine next) : next.location = machine.location :=
  congrArg FileSystem.locationOf hquiet.directory

theorem sound_start (hmoment : steady.Moment machine) (hquiet : Quiet origin machine) :
    Sound steady origin (Batch.start paths step) machine where
  moment := hmoment
  directory := hquiet.directory
  files := hquiet.files ▸ .refl _
  outside location _ := by rw [hquiet.files]
  step := .inl rfl
  paths := by simp [Batch.start, Function.comp_def]
  placed index path stage hindex := by
    simp only [Batch.start, List.getElem?_map, Option.map_eq_some_iff, Task.mk.injEq] at hindex
    obtain ⟨_, -, rfl, rfl⟩ := hindex
    exact .arriving

theorem Sound.path_mem (hsound : Sound steady origin ⟨cell, tasks⟩ machine)
    (hindex : tasks[index]? = some ⟨path, stage⟩) : path ∈ paths := by
  rw [← hsound.paths]
  exact List.mem_map.mpr ⟨_, List.mem_of_getElem? hindex, rfl⟩

theorem Sound.location_eq {batch : Batch Machine} (hsound : Sound steady origin batch machine) :
    machine.location = origin.location :=
  congrArg FileSystem.locationOf hsound.directory

theorem Sound.set (hsound : Sound steady origin ⟨cell, tasks⟩ machine)
    (hindex : tasks[index]? = some ⟨path, stage⟩)
    (hmoves : Moves mode answer origin.location path stage machine.files later next.files)
    (hmoment : steady.Moment next) (hdirectory : next.directory = machine.directory)
    (hstep : made.step = step ∨ made.step = step.settled steady.outcome)
    (hplaced : Placed steady origin path later) :
    Sound steady origin ⟨made, tasks.set index ⟨path, later⟩⟩ next where
  moment := hmoment
  directory := hdirectory.trans hsound.directory
  files := hsound.files.trans hmoves.alike
  outside location houtside := by
    rw [hmoves.node_eq, hsound.outside location houtside]
    rw [hsound.files.locate]
    exact houtside path (hsound.path_mem hindex)
  step := hstep
  paths := by
    rw [List.map_set, ← hsound.paths]
    exact set_of_getElem? (by rw [List.getElem?_map, hindex]; rfl)
  placed place named reached hplace := by
    rw [List.getElem?_set] at hplace
    split at hplace
    · split at hplace
      · cases hplace
        exact hplaced
      · cases hplace
    · exact hsound.placed place named reached hplace

theorem Sound.initializer_eq (hsound : Sound steady origin ⟨cell, tasks⟩ machine) :
    cell.step.initializer = step.initializer := by
  rcases hsound.step with hsame | hsettled
  · rw [hsame]
  · rw [hsettled]
    rfl

theorem Sound.settled_eq (hsound : Sound steady origin ⟨cell, tasks⟩ machine)
    (outcome : Except StepError (Engine Machine)) :
    cell.step.settled outcome = step.settled outcome := by
  rcases hsound.step with hsame | hsettled
  · rw [hsame]
  · rw [hsettled]
    rfl

theorem Sound.outcome_eq (hsound : Sound steady origin ⟨cell, tasks⟩ machine)
    {outcome : Except StepError (Engine Machine)} (hsettled : cell.step.outcome = some outcome) :
    outcome = steady.outcome := by
  rcases hsound.step with hsame | hlater
  · rw [hsame] at hsettled
    exact steady.settled outcome hsettled
  · rw [hlater] at hsettled
    cases hsettled
    rfl

theorem Sound.fresh (hsound : Sound steady origin ⟨cell, tasks⟩ machine)
    (hfresh : cell.step.outcome = none) : step.outcome = none := by
  rcases hsound.step with hsame | hlater
  · rwa [hsame] at hfresh
  · rw [hlater] at hfresh
    cases hfresh

theorem exists_names_of_readText {content : String} (hread : machine.readText path = .ok content) :
    ∃ location held executable,
      Names machine.files machine.location path location held executable := by
  obtain ⟨location, executable, hlocate, hnode, -⟩ := FileSystem.readText_eq_ok_iff.mp hread
  exact ⟨location, _, executable, hlocate, hnode⟩

/-- An action of a task is a move, and a sound batch is sound after it. -/
theorem Sound.act (hsound : Sound steady origin ⟨cell, tasks⟩ machine)
    (hindex : tasks[index]? = some ⟨path, stage⟩)
    (hacts : Acts mode path stage cell machine later made next) :
    Moves mode steady.answer origin.location path stage machine.files later next.files ∧
      Sound steady origin ⟨made, tasks.set index ⟨path, later⟩⟩ next := by
  have hmoment := hsound.moment
  have hlocation := hsound.location_eq
  have hplaced := hsound.placed index path stage hindex
  have hrewrite {location : Location} {held : ByteArray} {executable : Bool}
      (hnames : Names machine.files origin.location path location held executable)
      (content : ByteArray) : steady.Moment
        { machine with files := machine.files.put location (.file content executable) } := by
    rw [← hlocation] at hnames
    exact steady.rewrite path (hsound.path_mem hindex) machine location held executable content
      hmoment hnames.1 hnames.2
  -- what else a sound batch is follows from the move
  suffices hreached : Moves mode steady.answer origin.location path stage machine.files later
      next.files ∧ steady.Moment next ∧ next.directory = machine.directory ∧
      (made.step = step ∨ made.step = step.settled steady.outcome) ∧
      Placed steady origin path later by
    obtain ⟨hmoves, hmoment, hdirectory, hstep, hplaced⟩ := hreached
    exact ⟨hmoves, hsound.set hindex hmoves hmoment hdirectory hstep hplaced⟩
  cases hacts with
  | unreadable hread =>
      rw [Machine.readText, hlocation] at hread
      exact ⟨.unreadable hread, hmoment, rfl, hsound.step, .finished _⟩
  | read hread =>
      obtain ⟨location, held, executable, hnames⟩ := exists_names_of_readText hread
      rw [hlocation] at hnames
      obtain ⟨held, hnames⟩ := hnames.of_alike hsound.files.symm
      rw [Machine.readText, hlocation] at hread
      exact ⟨.read hread, hmoment, rfl, hsound.step, .waiting hnames⟩
  | borrow hsettled =>
      cases hplaced with
      | waiting hnames =>
          obtain rfl := hsound.outcome_eq hsettled
          exact ⟨.use, hmoment, rfl, hsound.step, .resolved hnames⟩
  | wait hfresh hclaimed => exact ⟨.use, hmoment, rfl, hsound.step, hplaced⟩
  | claim hfresh hfree =>
      cases hplaced with
      | waiting hnames =>
          exact ⟨.use, hmoment, rfl, hsound.step,
            .initializing hnames (hsound.fresh hfresh)⟩
  | prepare hinitializer =>
      cases hplaced with
      | initializing hnames hfresh =>
          obtain ⟨reached, houtcome, hquiet, hlater⟩ :=
            steady.initializer hfresh machine hmoment
          rw [hsound.initializer_eq, houtcome] at hinitializer
          cases hinitializer
          rw [hsound.settled_eq, hquiet.files]
          exact ⟨.use, hlater, hquiet.directory, .inr rfl, .resolved hnames⟩
  | reject happlied =>
      cases hplaced with
      | resolved hnames =>
          obtain ⟨reached, hanswer, hquiet, hlater⟩ := steady.applied _ machine hmoment
          rw [hanswer] at happlied
          obtain ⟨hreject, rfl⟩ := Prod.mk.inj happlied
          rw [hquiet.files]
          exact ⟨.reject hreject, hlater, hquiet.directory, hsound.step, .finished _⟩
  | format happlied =>
      cases hplaced with
      | resolved hnames =>
          obtain ⟨reached, hanswer, hquiet, hlater⟩ := steady.applied _ machine hmoment
          rw [hanswer] at happlied
          obtain ⟨hformat, rfl⟩ := Prod.mk.inj happlied
          rw [hquiet.files]
          exact ⟨.format hformat, hlater, hquiet.directory, hsound.step, .formatted hnames⟩
  | keep => exact ⟨.keep, steady.record _ _ hmoment, rfl, hsound.step, .finished _⟩
  | report hchanged hmode =>
      exact ⟨.report hchanged hmode, hmoment, rfl, hsound.step, .finished _⟩
  | refuse hchanged hmode hopen =>
      cases hplaced with
      | formatted hnames =>
          obtain ⟨held, hpresent⟩ := hnames.of_alike hsound.files
          rw [hlocation] at hopen
          have hrefused := FileSystem.openEmpty_error_inv hpresent.1 hpresent.2 hopen
          exact ⟨.refuse hchanged hmode hpresent hrefused, hmoment, rfl, hsound.step, .finished _⟩
  | empty hchanged hmode hopen =>
      cases hplaced with
      | formatted hnames =>
          obtain ⟨held, hpresent⟩ := hnames.of_alike hsound.files
          rw [hlocation] at hopen
          obtain ⟨hallowed, rfl, rfl⟩ :=
            FileSystem.openEmpty_ok_inv hpresent.1 hpresent.2 hopen
          exact ⟨.empty hchanged hmode hpresent hallowed, hrewrite hpresent _, rfl, hsound.step,
            .filling hnames⟩
  | cut hfill =>
      cases hplaced with
      | filling hnames =>
          obtain ⟨held, hpresent⟩ := hnames.of_alike hsound.files
          obtain ⟨refusal, hrefused, rfl, rfl⟩ := FileSystem.fill_error_inv hfill
          rw [FileSystem.patch_of_file hpresent.2]
          exact ⟨.cut hpresent hrefused, hrewrite hpresent _, rfl, hsound.step, .finished _⟩
  | fill hfill =>
      cases hplaced with
      | filling hnames =>
          obtain ⟨held, hpresent⟩ := hnames.of_alike hsound.files
          obtain ⟨haccepted, rfl⟩ := FileSystem.fill_ok_inv hfill
          rw [FileSystem.patch_of_file hpresent.2]
          exact ⟨.fill hpresent haccepted, steady.record _ _ (hrewrite hpresent _), rfl,
            hsound.step, .finished _⟩
  | rest => exact ⟨.rest, hmoment, rfl, hsound.step, hplaced⟩

/-- What every move of a sound batch preserves, every run preserves. -/
theorem Sound.run (Holds : List (Task Machine) → FileSystem → Prop)
    (hmove : ∀ {cell : Cell Machine} {tasks : List (Task Machine)} {machine : Machine} {index : Nat}
      {path : Path} {stage later : Stage Machine} {files : FileSystem},
      Sound steady origin ⟨cell, tasks⟩ machine →
      Holds tasks machine.files → tasks[index]? = some ⟨path, stage⟩ →
      Moves mode steady.answer origin.location path stage machine.files later files →
      Holds (tasks.set index ⟨path, later⟩) files)
    {batch : Batch Machine} (hsound : Sound steady origin batch machine)
    (hstart : Holds batch.tasks machine.files) (schedule : List Nat) :
    Sound steady origin (batch.run mode schedule machine).1 (batch.run mode schedule machine).2 ∧
      Holds (batch.run mode schedule machine).1.tasks
        (batch.run mode schedule machine).2.files := by
  refine Batch.run_induction (fun batch machine => Sound steady origin batch machine ∧
    Holds batch.tasks machine.files) ?_ ⟨hsound, hstart⟩ schedule
  rintro cell after tasks index path stage later machine next ⟨hsound, hholds⟩ hindex hacts
  obtain ⟨hmoves, hlater⟩ := hsound.act hindex hacts
  exact ⟨hlater, hmove hsound hholds hindex hmoves⟩

theorem quiet_record (machine : Machine) (event : Event) : Quiet machine (machine.record event) :=
  ⟨rfl, rfl⟩

theorem sound_run (steady : Steady step paths) (hmoment : steady.Moment machine)
    (hquiet : Quiet origin machine) {schedule : List Nat} {batch : Batch Machine}
    (hrun : (Batch.start paths step).run mode schedule machine = (batch, next)) :
    Sound steady origin batch next := by
  obtain ⟨rfl, rfl⟩ := Prod.mk.inj hrun.symm
  exact (Sound.run (fun _ _ => True) (fun _ _ _ _ => trivial)
    (sound_start hmoment hquiet) trivial schedule).1

theorem sound_formatTogether (hmoment : steady.Moment machine) {schedule : List Nat}
    {batch : Batch Machine}
    (hrun : formatTogether mode paths step schedule machine = (batch, next)) :
    Sound steady machine batch next :=
  sound_run steady (steady.record _ _ hmoment) (quiet_record machine _) hrun

theorem Sound.paths_eq {batch : Batch Machine} (hsound : Sound steady origin batch machine)
    {reports : List Report} (hreports : batch.reports? = some reports) :
    reports.map Report.path = paths := by
  rw [← hsound.paths, Batch.reports?_eq_some_iff.mp hreports, List.map_map]
  rfl

theorem Sound.locate_eq {batch : Batch Machine} (hsound : Sound steady origin batch machine)
    (path : Path) : machine.locate path = origin.locate path := by
  rw [Machine.locate, hsound.location_eq, hsound.files.locate, Machine.locate]

end CodeFormatting.Files
