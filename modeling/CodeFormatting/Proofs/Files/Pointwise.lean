import CodeFormatting.Proofs.Files.Rounds
import CodeFormatting.Proofs.Files.Steady
namespace CodeFormatting.Files

/-! What a task comes to depends on its own file alone. From each stage it can be told how
the task would end if no other task acted any more, and no action of any task changes that. -/

def fillEnd (path : Path) (location : Location) (text : String) (files : FileSystem) :
    Except FileError Outcome × FileSystem :=
  match files.fill location text.toUTF8 with
  | (after, .ok ()) => (.ok .formatted, after)
  | (after, .error error) => (.error (.write path error), after)

def writeEnd (directory : Location) (path : Path) (text : String) (files : FileSystem) :
    Except FileError Outcome × FileSystem :=
  match files.openEmpty directory path with
  | .error error => (.error (.write path error), files)
  | .ok (location, emptied) => fillEnd path location text emptied

def settleEnd (mode : Mode) (directory : Location) (path : Path) (content text : String)
    (files : FileSystem) : Except FileError Outcome × FileSystem :=
  if text = content then (.ok .unchanged, files)
  else
    match mode with
    | .check => (.ok .wouldFormat, files)
    | .write => writeEnd directory path text files

def formatEnd (mode : Mode) (answer : String → Except FormatError String) (directory : Location)
    (path : Path) (content : String) (files : FileSystem) :
    Except FileError Outcome × FileSystem :=
  match answer content with
  | .error error => (.error (.format path error), files)
  | .ok text => settleEnd mode directory path content text files

/-- How a task ends if no other one acts any more. -/
def Stage.ending (mode : Mode) (answer : String → Except FormatError String)
    (directory : Location) (path : Path) (files : FileSystem) :
    Stage Machine → Except FileError Outcome × FileSystem
  | .arriving =>
    match files.readText directory path with
    | .error error => (.error (.read path error), files)
    | .ok content => formatEnd mode answer directory path content files
  | .holding content _ => formatEnd mode answer directory path content files
  | .formatted content text => settleEnd mode directory path content text files
  | .filling location text => fillEnd path location text files
  | .finished outcome => (outcome, files)

variable {mode : Mode} {answer : String → Except FormatError String} {directory : Location}
  {path : Path} {paths : List Path} {content text : String} {location : Location}
  {stage later : Stage Machine} {files other after : FileSystem} {step : Step Machine}
  {machine origin : Machine}

theorem fillEnd_of_refused {refusal : Refusal}
    (hrefused : files.refusesWrite location = some refusal) (path : Path) (text : String) :
    fillEnd path location text files =
      (.error (.write path refusal.error),
        files.patch location (text.toUTF8.extract 0 refusal.taken)) := by
  simp only [fillEnd, FileSystem.fill_of_refused hrefused]

theorem fillEnd_of_accepted (haccepted : files.refusesWrite location = none) (path : Path)
    (text : String) :
    fillEnd path location text files = (.ok .formatted, files.patch location text.toUTF8) := by
  simp only [fillEnd, FileSystem.fill_of_accepted haccepted]

/-- A move leads on to the end that was to be expected before it. -/
theorem Moves.ending_eq
    (hmoves : Moves mode answer directory path stage files later after) :
    later.ending mode answer directory path after =
      stage.ending mode answer directory path files := by
  cases hmoves with
  | unreadable hread => simp only [Stage.ending, hread]
  | read hread => simp only [Stage.ending, hread]
  | use => rfl
  | reject hanswer => simp only [Stage.ending, formatEnd, hanswer]
  | format hanswer => simp only [Stage.ending, formatEnd, hanswer]
  | keep => simp only [Stage.ending, settleEnd, if_true]
  | report hchanged hmode => simp only [Stage.ending, settleEnd, if_neg hchanged, hmode]
  | refuse hchanged hmode hnames hrefused =>
      simp only [Stage.ending, settleEnd, if_neg hchanged, hmode, writeEnd,
        FileSystem.openEmpty_of_refused hnames.1 hnames.2 hrefused]
  | empty hchanged hmode hnames hallowed =>
      simp only [Stage.ending, settleEnd, if_neg hchanged, hmode, writeEnd,
        FileSystem.openEmpty_of_allowed hnames.1 hnames.2 hallowed]
  | cut hnames hrefused =>
      simp only [Stage.ending, fillEnd_of_refused hrefused,
        FileSystem.patch_of_file hnames.2]
  | fill hnames haccepted =>
      simp only [Stage.ending, fillEnd_of_accepted haccepted,
        FileSystem.patch_of_file hnames.2]
  | rest => rfl

/-! The end of a task is the same in two file systems that agree on its file. -/

structure SameAt (location : Location) (files other : FileSystem) : Prop where
  alike : files.Alike other
  node : other.node location = files.node location

theorem SameAt.put (hsame : SameAt location files other) (node : Node) :
    SameAt location (files.put location node) (other.put location node) := by
  refine ⟨⟨fun place => ?_, hsame.alike.refusesRead, hsame.alike.refusesOpen,
    hsame.alike.refusesWrite⟩, ?_⟩
  · by_cases hplace : place = location
    · rw [hplace, FileSystem.node_put_self, FileSystem.node_put_self]
    · rw [FileSystem.node_put_of_ne _ _ hplace, FileSystem.node_put_of_ne _ _ hplace]
      exact hsame.alike.node place
  · rw [FileSystem.node_put_self, FileSystem.node_put_self]

theorem SameAt.patch (hsame : SameAt location files other) (octets : ByteArray) :
    (other.patch location octets).node location = (files.patch location octets).node location := by
  simp only [FileSystem.patch, hsame.node]
  split
  · rw [FileSystem.node_put_self, FileSystem.node_put_self]
  · exact hsame.node

/-- Two ends of a task with the same outcome, after which its file holds the same. -/
def SameEnd (files : FileSystem) (directory : Location) (path : Path)
    (ending other : Except FileError Outcome × FileSystem) : Prop :=
  other.1 = ending.1 ∧ ∀ location, files.locate directory path = .ok location →
    other.2.node location = ending.2.node location

theorem sameEnd_of_locate {ending otherEnding : Except FileError Outcome × FileSystem}
    (hlocate : files.locate directory path = .ok location)
    (houtcome : otherEnding.1 = ending.1)
    (hnode : otherEnding.2.node location = ending.2.node location) :
    SameEnd files directory path ending otherEnding := by
  refine ⟨houtcome, fun place hplace => ?_⟩
  rw [hlocate] at hplace
  cases hplace
  exact hnode

theorem SameAt.fillEnd (hsame : SameAt location files other)
    (hlocate : after.locate directory path = .ok location) (text : String) :
    SameEnd after directory path (fillEnd path location text files)
      (fillEnd path location text other) := by
  have hrefusals := congrFun hsame.alike.refusesWrite location
  cases hrefused : files.refusesWrite location with
  | none =>
      rw [hrefused] at hrefusals
      rw [fillEnd_of_accepted hrefused, fillEnd_of_accepted hrefusals]
      exact sameEnd_of_locate hlocate rfl (hsame.patch _)
  | some refusal =>
      rw [hrefused] at hrefusals
      rw [fillEnd_of_refused hrefused, fillEnd_of_refused hrefusals]
      exact sameEnd_of_locate hlocate rfl (hsame.patch _)

section Agreeing

variable (halike : files.Alike other)
  (hsame : ∀ location, files.locate directory path = .ok location →
    other.node location = files.node location)

include halike hsame

theorem sameEnd_writeEnd (text : String) :
    SameEnd files directory path (writeEnd directory path text files)
      (writeEnd directory path text other) := by
  simp only [writeEnd, FileSystem.openEmpty, halike.locate, halike.refusesOpen]
  cases hlocate : files.locate directory path with
  | error error => exact ⟨rfl, hsame⟩
  | ok location =>
      have hnode := hsame location hlocate
      have hput (node : Node) : SameEnd files directory path
          (fillEnd path location text (files.put location node))
          (fillEnd path location text (other.put location node)) :=
        (SameAt.put ⟨halike, hnode⟩ node).fillEnd hlocate text
      simp only [hnode]
      rcases files.node location with _ | ⟨held, executable⟩ | _ <;>
        cases files.refusesOpen location <;>
        first | exact hput _ | exact ⟨rfl, hsame⟩

theorem sameEnd_settleEnd (mode : Mode) (content text : String) :
    SameEnd files directory path (settleEnd mode directory path content text files)
      (settleEnd mode directory path content text other) := by
  unfold settleEnd
  split
  · exact ⟨rfl, hsame⟩
  · cases mode with
    | check => exact ⟨rfl, hsame⟩
    | write => exact sameEnd_writeEnd halike hsame text

theorem sameEnd_formatEnd (mode : Mode) (answer : String → Except FormatError String)
    (content : String) :
    SameEnd files directory path (formatEnd mode answer directory path content files)
      (formatEnd mode answer directory path content other) := by
  unfold formatEnd
  cases answer content with
  | error error => exact ⟨rfl, hsame⟩
  | ok text => exact sameEnd_settleEnd halike hsame mode content text

theorem sameEnd_ending (mode : Mode) (answer : String → Except FormatError String)
    (hfilling : ∀ location text, stage = .filling location text →
      files.locate directory path = .ok location) :
    SameEnd files directory path (stage.ending mode answer directory path files)
      (stage.ending mode answer directory path other) := by
  cases stage with
  | arriving =>
      simp only [Stage.ending, halike.readText hsame]
      cases files.readText directory path with
      | error error => exact ⟨rfl, hsame⟩
      | ok content => exact sameEnd_formatEnd halike hsame mode answer content
  | holding content use => exact sameEnd_formatEnd halike hsame mode answer content
  | formatted content text => exact sameEnd_settleEnd halike hsame mode content text
  | filling location text =>
      have hlocate := hfilling location text rfl
      exact SameAt.fillEnd ⟨halike, hsame location hlocate⟩ hlocate text
  | finished outcome => exact ⟨rfl, hsame⟩

end Agreeing

/-! Tasks whose files are apart. -/

/-- Two paths that do not lead to the same place. -/
def Apart (machine : Machine) (path other : Path) : Prop :=
  ∀ location, machine.locate path = .ok location → machine.locate other ≠ .ok location

theorem Apart.symm {first second : Path} (hapart : Apart machine first second) :
    Apart machine second first :=
  fun location hsecond hfirst => hapart location hfirst hsecond

/-- One of some paths, from which all the others are apart. -/
structure Lone (machine : Machine) (paths : List Path) (place : Nat) (path : Path) : Prop where
  listed : paths[place]? = some path
  apart : ∀ index other, paths[index]? = some other → index ≠ place → Apart machine path other

variable {place : Nat}

theorem lone_of_pairwise (hapart : paths.Pairwise (Apart machine))
    (hlisted : paths[place]? = some path) : Lone machine paths place path := by
  refine ⟨hlisted, fun index other hother hne => ?_⟩
  obtain ⟨hplace, rfl⟩ := List.getElem?_eq_some_iff.mp hlisted
  obtain ⟨hindex, rfl⟩ := List.getElem?_eq_some_iff.mp hother
  rw [List.pairwise_iff_getElem] at hapart
  rcases Nat.lt_or_gt_of_ne hne with hlt | hgt
  · exact (hapart index place hindex hplace hlt).symm
  · exact hapart place index hplace hindex hgt

theorem lone_singleton (machine : Machine) (path : Path) : Lone machine [path] 0 path :=
  lone_of_pairwise (List.pairwise_singleton _ path) rfl

/-- How a file is to end, from what there was before any task acted. -/
def expected (mode : Mode) (answer : String → Except FormatError String) (origin : Machine)
    (path : Path) : Except FileError Outcome × FileSystem :=
  Stage.arriving.ending mode answer origin.location path origin.files

/-- A task that is going to end as expected. -/
def Underway (mode : Mode) (answer : String → Except FormatError String) (origin : Machine)
    (place : Nat) (path : Path) (tasks : List (Task Machine)) (files : FileSystem) : Prop :=
  ∀ stage, tasks[place]? = some ⟨path, stage⟩ →
    SameEnd origin.files origin.location path (expected mode answer origin path)
      (stage.ending mode answer origin.location path files)

variable {steady : Steady step paths} {cell : Cell Machine} {tasks : List (Task Machine)}
  {index : Nat} {other : Path} {reached : Stage Machine}

/-- A move of one task makes no difference to the end of a task whose file is apart. -/
theorem Sound.sameEnd_of_apart (hsound : Sound steady origin ⟨cell, tasks⟩ machine)
    (hplace : tasks[place]? = some ⟨path, stage⟩) (hapart : Apart origin path other)
    (hmoves : Moves mode answer origin.location other reached machine.files later after) :
    SameEnd machine.files origin.location path
      (stage.ending mode answer origin.location path machine.files)
      (stage.ending mode answer origin.location path after) := by
  have hlocate := hsound.files.locate origin.location
  refine sameEnd_ending hmoves.alike (fun location hlocation => hmoves.node_eq fun hown => ?_)
    mode answer ?_
  · rw [hlocate] at hown hlocation
    exact hapart location hlocation hown
  · rintro location text rfl
    cases hsound.placed place path _ hplace with
    | filling hnames => exact (hlocate path).trans hnames.1

theorem underway_run (steady : Steady step paths) (hlone : Lone origin paths place path)
    (hmoment : steady.Moment machine) (hquiet : Quiet origin machine)
    {schedule : List Nat} {batch : Batch Machine} {after : Machine}
    (hrun : (Batch.start paths step).run mode schedule machine = (batch, after)) :
    Underway mode steady.answer origin place path batch.tasks after.files := by
  obtain ⟨rfl, rfl⟩ := Prod.mk.inj hrun.symm
  refine (Sound.run _ ?_ (sound_start hmoment hquiet) ?_ schedule).2
  · intro cell tasks machine index other stage later files hsound hunderway hindex hmoves reached
      hplace
    rw [List.getElem?_set] at hplace
    split at hplace
    -- the task itself moved, on to the same end
    · next hsame =>
        split at hplace
        · cases hplace
          rw [hmoves.ending_eq]
          exact hunderway stage (hsame ▸ hindex)
        · cases hplace
    -- another task moved, which left the file as it was
    · next hne =>
        have hother : paths[index]? = some other := by
          rw [← hsound.paths, List.getElem?_map, hindex]
          rfl
        have hlocal := hsound.sameEnd_of_apart hplace (hlone.apart index other hother hne) hmoves
        obtain ⟨houtcome, hnode⟩ := hunderway reached hplace
        refine ⟨hlocal.1.trans houtcome, fun location hlocation => ?_⟩
        have hnow := (hsound.files.locate origin.location path).trans hlocation
        rw [hlocal.2 location hnow, hnode location hlocation]
  · intro stage hplace
    simp only [Batch.start, List.getElem?_map, Option.map_eq_some_iff, Task.mk.injEq] at hplace
    obtain ⟨_, -, rfl, rfl⟩ := hplace
    rw [hquiet.files]
    exact ⟨rfl, fun _ _ => rfl⟩

/-! What an end is like. -/

theorem fillEnd_fst (path : Path) (location : Location) (text : String) (files : FileSystem) :
    (fillEnd path location text files).1 = .ok .formatted ∨
      ∃ cause, (fillEnd path location text files).1 = .error (.write path cause) := by
  cases hrefused : files.refusesWrite location with
  | none => exact .inl (by rw [fillEnd_of_accepted hrefused])
  | some refusal => exact .inr ⟨refusal.error, by rw [fillEnd_of_refused hrefused]⟩

theorem writeEnd_fst (directory : Location) (path : Path) (text : String) (files : FileSystem) :
    (writeEnd directory path text files).1 = .ok .formatted ∨
      ∃ cause, (writeEnd directory path text files).1 = .error (.write path cause) := by
  unfold writeEnd
  split
  · exact .inr ⟨_, rfl⟩
  · exact fillEnd_fst ..

/-- A file that is not written stays as it is, and so do all the others. -/
theorem expected_snd (hformatted : (expected mode answer origin path).1 ≠ .ok .formatted)
    (hwrite : ∀ cause, (expected mode answer origin path).1 ≠ .error (.write path cause)) :
    (expected mode answer origin path).2 = origin.files := by
  simp only [expected, Stage.ending] at hformatted hwrite ⊢
  cases hread : origin.files.readText origin.location path with
  | error error => rfl
  | ok content =>
      simp only [hread, formatEnd] at hformatted hwrite ⊢
      cases hanswer : answer content with
      | error error => rfl
      | ok text =>
          simp only [hanswer, settleEnd] at hformatted hwrite ⊢
          by_cases hchanged : text = content
          · rw [if_pos hchanged]
          · rw [if_neg hchanged] at hformatted hwrite ⊢
            cases mode with
            | check => rfl
            | write =>
                rcases writeEnd_fst origin.location path text origin.files with
                  hdone | ⟨cause, hfailed⟩
                · exact absurd hdone hformatted
                · exact absurd hfailed (hwrite cause)

theorem writeEnd_of_formatted {held : ByteArray} {executable : Bool}
    (hnames : Names files directory path location held executable)
    (hformatted : (writeEnd directory path text files).1 = .ok .formatted) :
    (writeEnd directory path text files).2.node location =
      some (.file text.toUTF8 executable) := by
  cases hallowed : files.refusesOpen location with
  | some error =>
      simp only [writeEnd, FileSystem.openEmpty_of_refused hnames.1 hnames.2 hallowed]
        at hformatted
      cases hformatted
  | none =>
      simp only [writeEnd, FileSystem.openEmpty_of_allowed hnames.1 hnames.2 hallowed]
        at hformatted ⊢
      cases haccepted : (files.put location (.file .empty executable)).refusesWrite location with
      | some refusal =>
          rw [fillEnd_of_refused haccepted] at hformatted
          cases hformatted
      | none =>
          rw [fillEnd_of_accepted haccepted,
            FileSystem.patch_of_file (FileSystem.node_put_self ..), FileSystem.node_put_self,
            FileSystem.overwritten_empty]

/-- A file that was formatted holds the formatted text of what was in it. -/
theorem expected_of_formatted
    (hformatted : (expected mode answer origin path).1 = .ok .formatted) :
    ∃ content text location executable, origin.readText path = .ok content ∧
      answer content = .ok text ∧ text ≠ content ∧ origin.locate path = .ok location ∧
      origin.files.refusesRead location = none ∧
      (expected mode answer origin path).2.node location =
        some (.file text.toUTF8 executable) := by
  simp only [expected, Stage.ending] at hformatted ⊢
  cases hread : origin.files.readText origin.location path with
  | error error =>
      rw [hread] at hformatted
      cases hformatted
  | ok content =>
      simp only [hread, formatEnd] at hformatted ⊢
      cases hanswer : answer content with
      | error error =>
          rw [hanswer] at hformatted
          cases hformatted
      | ok text =>
          obtain ⟨location, executable, hlocate, hnode, hreadable⟩ :=
            FileSystem.readText_eq_ok_iff.mp hread
          simp only [hanswer, settleEnd] at hformatted ⊢
          by_cases hchanged : text = content
          · rw [if_pos hchanged] at hformatted
            cases hformatted
          · rw [if_neg hchanged] at hformatted ⊢
            refine ⟨content, text, location, executable, hread, hanswer, hchanged, hlocate,
              hreadable, ?_⟩
            cases mode with
            | check => cases hformatted
            | write => exact writeEnd_of_formatted ⟨hlocate, hnode⟩ hformatted

/-! The runs of a batch, and each file on its own. -/

theorem run_single (mode : Mode) (path : Path) (step : Step Machine) (machine : Machine) :
    (Batch.start [path] step).run mode (List.replicate 6 0) machine =
      (let ((outcome, after), next) := formatFile mode path step machine
      (⟨⟨after, false⟩, [⟨path, .finished outcome⟩]⟩, next)) := by
  have hindex : (Batch.start [path] step).tasks[0]? = some ⟨path, .arriving⟩ := rfl
  have hrun : (Batch.start [path] step).run mode (List.replicate 6 0) machine = _ :=
    Batch.run_replicate hindex 6
  rw [actFor_six] at hrun
  exact hrun

/-- A file that is formatted on its own ends as expected. -/
theorem formatFile_sound (steady : Steady step paths) (hmoment : steady.Moment machine)
    (hfew : [path] ⊆ paths) {outcome : Except FileError Outcome} {made : Step Machine}
    {next : Machine} (hfile : formatFile mode path step machine = ((outcome, made), next)) :
    Sound (steady.restrict hfew) machine ⟨⟨made, false⟩, [⟨path, .finished outcome⟩]⟩ next ∧
      SameEnd machine.files machine.location path (expected mode steady.answer machine path)
        (outcome, next.files) := by
  have hrun := run_single mode path step machine
  rw [hfile] at hrun
  have hunderway := underway_run (steady.restrict hfew) (lone_singleton machine path) hmoment
    ⟨rfl, rfl⟩ hrun
  exact ⟨sound_run (steady.restrict hfew) hmoment ⟨rfl, rfl⟩ hrun, hunderway _ rfl⟩

theorem formatFile_expected (steady : Steady step paths) (hmoment : steady.Moment machine)
    (hpath : path ∈ paths) (mode : Mode) :
    (formatFile mode path step machine).1.1 = (expected mode steady.answer machine path).1 :=
  (formatFile_sound steady hmoment (by simpa using hpath) rfl).2.1

/-- A file that is apart from all the others ends as expected. -/
theorem Lone.sameEnd {machine : Machine} (hlone : Lone machine paths place path)
    (hmoment : steady.Moment machine) {schedule : List Nat} {batch : Batch Machine}
    {reports : List Report} {after : Machine}
    (hrun : formatTogether mode paths step schedule machine = (batch, after))
    (hreports : batch.reports? = some reports) :
    ∃ outcome, reports[place]? = some ⟨path, outcome⟩ ∧
      SameEnd machine.files machine.location path (expected mode steady.answer machine path)
        (outcome, after.files) := by
  have hunderway := underway_run steady hlone (steady.record _ _ hmoment)
    (quiet_record machine _) hrun
  have hpaths := (sound_formatTogether hmoment hrun).paths_eq hreports
  have hlisted := hlone.listed
  rw [← hpaths, List.getElem?_map, Option.map_eq_some_iff] at hlisted
  obtain ⟨⟨path, outcome⟩, hreport, rfl⟩ := hlisted
  refine ⟨outcome, hreport, hunderway (.finished outcome) ?_⟩
  rw [Batch.reports?_eq_some_iff.mp hreports, List.getElem?_map, hreport]
  rfl

theorem reports_expected (hapart : paths.Pairwise (Apart machine))
    (hmoment : steady.Moment machine) {schedule : List Nat} {batch : Batch Machine}
    {reports : List Report} {after : Machine}
    (hrun : formatTogether mode paths step schedule machine = (batch, after))
    (hreports : batch.reports? = some reports) :
    reports = paths.map fun path => ⟨path, (expected mode steady.answer machine path).1⟩ := by
  have hpaths := (sound_formatTogether hmoment hrun).paths_eq hreports
  refine List.ext_getElem? fun index => ?_
  rw [List.getElem?_map]
  cases hlisted : paths[index]? with
  | none =>
      rw [← hpaths, List.getElem?_map, Option.map_eq_none_iff] at hlisted
      rw [hlisted]
      rfl
  | some path =>
      obtain ⟨outcome, hreport, houtcome, -⟩ :=
        (lone_of_pairwise hapart hlisted).sameEnd hmoment hrun hreports
      rw [hreport, Option.map_some, ← houtcome]

theorem node_eq_expected (hapart : paths.Pairwise (Apart machine))
    (hmoment : steady.Moment machine) {schedule : List Nat} {batch : Batch Machine}
    {reports : List Report} {after : Machine}
    (hrun : formatTogether mode paths step schedule machine = (batch, after))
    (hreports : batch.reports? = some reports) (hpath : path ∈ paths)
    (hlocate : machine.locate path = .ok location) :
    after.files.node location =
      (expected mode steady.answer machine path).2.node location := by
  obtain ⟨place, hlisted⟩ := List.mem_iff_getElem?.mp hpath
  obtain ⟨outcome, -, -, hnode⟩ :=
    (lone_of_pairwise hapart hlisted).sameEnd hmoment hrun hreports
  exact hnode location hlocate

/-- A place is left alone unless a path that leads there was reported as formatted or could
not be written. -/
theorem node_eq_of_unwritten (hapart : paths.Pairwise (Apart machine))
    (hmoment : steady.Moment machine) {schedule : List Nat} {batch : Batch Machine}
    {reports : List Report} {after : Machine}
    (hrun : formatTogether mode paths step schedule machine = (batch, after))
    (hreports : batch.reports? = some reports)
    (hunwritten : ∀ path outcome, ⟨path, outcome⟩ ∈ reports →
      machine.locate path = .ok location →
      outcome ≠ .ok .formatted ∧ ∀ cause, outcome ≠ .error (.write path cause)) :
    after.files.node location = machine.files.node location := by
  by_cases hlisted : ∃ path ∈ paths, machine.locate path = .ok location
  · obtain ⟨path, hpath, hplace⟩ := hlisted
    have hmem : (⟨path, (expected mode steady.answer machine path).1⟩ : Report) ∈ reports := by
      rw [reports_expected hapart hmoment hrun hreports]
      exact List.mem_map.mpr ⟨path, hpath, rfl⟩
    obtain ⟨hformatted, hwrite⟩ := hunwritten path _ hmem hplace
    rw [node_eq_expected hapart hmoment hrun hreports hpath hplace,
      expected_snd hformatted hwrite]
  · exact (sound_formatTogether hmoment hrun).outside location
      fun path hpath hplace => hlisted ⟨path, hpath, hplace⟩

/-- Files that are formatted together with a steady step all end as each would have ended on
its own, whatever the order in which their tasks act. -/
theorem pointwise_run (steady : Steady step paths) (mode : Mode) (hmoment : steady.Moment machine)
    (hapart : paths.Pairwise (Apart machine)) :
    let alone := paths.map fun path =>
      (⟨path, (formatFile mode path step machine).1.1⟩ : Report)
    (formatFiles mode paths step machine).1.1 = alone ∧
    (∀ order, Fair paths.length order → ∃ count reports,
      (formatTogether mode paths step (turns order 0 count) machine).1.reports? = some reports) ∧
    ∀ schedule batch reports after,
      formatTogether mode paths step schedule machine = (batch, after) →
      batch.reports? = some reports →
      reports = alone ∧
      (∀ path, after.locate path = machine.locate path) ∧
      (∀ path, ⟨path, .ok .formatted⟩ ∈ reports → ∃ content text,
        machine.readText path = .ok content ∧ (step.format content machine).1.1 = .ok text ∧
          after.readText path = .ok text) ∧
      ∀ location, (∀ path outcome, ⟨path, outcome⟩ ∈ reports →
          machine.locate path = .ok location →
          outcome ≠ .ok .formatted ∧ ∀ cause, outcome ≠ .error (.write path cause)) →
        after.files.node location = machine.files.node location := by
  intro alone
  have halone : alone =
      paths.map fun path => ⟨path, (expected mode steady.answer machine path).1⟩ :=
    List.map_congr_left fun path hpath => by rw [formatFile_expected steady hmoment hpath]
  refine ⟨?_, fun order hfair => exists_reports_formatTogether hfair mode step machine, ?_⟩
  · rcases hfiles : formatFiles mode paths step machine with ⟨⟨reports, later⟩, next⟩
    obtain ⟨batch, hrun, hreports, -⟩ := formatFiles_of_formatTogether hfiles
    rw [reports_expected hapart hmoment hrun hreports, halone]
  intro schedule batch reports after hrun hreports
  have hsound := sound_formatTogether hmoment hrun
  have hexpected := reports_expected hapart hmoment hrun hreports
  refine ⟨?_, hsound.locate_eq, ?_,
    fun location => node_eq_of_unwritten hapart hmoment hrun hreports⟩
  · rw [hexpected, halone]
  · intro path hmem
    rw [hexpected, List.mem_map] at hmem
    obtain ⟨listed, hlisted, hreport⟩ := hmem
    obtain ⟨rfl, hformatted⟩ := Report.mk.inj hreport
    obtain ⟨content, text, location, executable, hread, hanswer, -, hplace, hreadable, hnode⟩ :=
      expected_of_formatted hformatted
    obtain ⟨later, next, hformat, -⟩ := steady.format hmoment content
    refine ⟨content, text, hread, by rw [hformat, hanswer], ?_⟩
    refine FileSystem.readText_eq_ok_iff.mpr ⟨location, executable, ?_, ?_, ?_⟩
    · exact (hsound.locate_eq listed).trans hplace
    · rw [node_eq_expected hapart hmoment hrun hreports hlisted hplace, hnode]
    · rw [hsound.files.refusesRead, hreadable]

theorem pointwise_run_of_missing :
    let paths : List Path := [⟨"/a.kt"⟩, ⟨"/b.kt"⟩]
    let step := Step.ofFunction fun _ => "y"
    ∀ schedule batch reports after,
      formatTogether .write paths step schedule (oneFile "x" none) = (batch, after) →
      batch.reports? = some reports →
      reports = [⟨⟨"/a.kt"⟩, .ok .formatted⟩,
        ⟨⟨"/b.kt"⟩, .error (.read ⟨"/b.kt"⟩ .notFound)⟩] := by
  intro paths step schedule batch reports after hrun hreports
  have hapart : paths.Pairwise (Apart (oneFile "x" none)) := by
    refine List.pairwise_pair.mpr fun location hfirst hsecond => ?_
    obtain rfl : ["a.kt"] = location := Except.ok.inj hfirst
    have hsame : ["b.kt"] = ["a.kt"] := Except.ok.inj hsecond
    exact absurd hsame (by decide)
  have hrun := (pointwise_run (Steady.ofFunction (fun _ => "y") paths) .write trivial
    hapart).2.2 schedule batch reports after hrun hreports
  exact hrun.1

end CodeFormatting.Files
