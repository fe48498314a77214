import CodeFormatting.Proofs.Files.Pointwise
import CodeFormatting.Substitution
namespace CodeFormatting.Files

/-! A file that is listed more than once. A task that writes empties the file first, and
another task may read it then. As long as nobody opens the file it holds its first text.
After that it holds the formatted text, or nothing while a task has it open. -/

variable {format : String → String} {path : Path} {paths : List Path} {step : Step Machine}
  {machine next origin : Machine} {location : Location} {content text : String}
  {executable : Bool} {stage later : Stage Machine} {cell : Cell Machine}
  {tasks : List (Task Machine)} {index : Nat} {files after : FileSystem}

/-- A file with its text, of which neither reading nor writing fails. -/
structure Usable (files : FileSystem) (location : Location) (content : String)
    (executable : Bool) : Prop where
  node : files.node location = some (.file content.toUTF8 executable)
  refusesRead : files.refusesRead location = none
  refusesOpen : files.refusesOpen location = none
  refusesWrite : files.refusesWrite location = none

theorem Usable.readText_eq {directory : Location}
    (husable : Usable files location content executable)
    (hlocate : files.locate directory path = .ok location) :
    files.readText directory path = .ok content :=
  FileSystem.readText_eq_ok_iff.mpr
    ⟨location, executable, hlocate, husable.node, husable.refusesRead⟩

theorem Usable.of_alike (husable : Usable files location content executable)
    (halike : files.Alike after)
    (hnode : after.node location = some (.file text.toUTF8 executable)) :
    Usable after location text executable :=
  ⟨hnode, halike.refusesRead ▸ husable.refusesRead, halike.refusesOpen ▸ husable.refusesOpen,
    halike.refusesWrite ▸ husable.refusesWrite⟩

/-! Tasks that follow one another. -/

theorem writeEnd_of_usable {directory : Location}
    (husable : Usable files location content executable)
    (hlocate : files.locate directory path = .ok location) (text : String) :
    (writeEnd directory path text files).2.node location =
      some (.file text.toUTF8 executable) := by
  have haccepts : (files.put location (.file .empty executable)).refusesWrite location = none :=
    husable.refusesWrite
  simp only [writeEnd, FileSystem.openEmpty_of_allowed hlocate husable.node husable.refusesOpen,
    fillEnd_of_accepted haccepts, FileSystem.patch_of_file (FileSystem.node_put_self ..),
    FileSystem.node_put_self, FileSystem.overwritten_empty]

theorem expected_of_usable {answer : String → Except FormatError String}
    (hanswer : answer content = .ok text)
    (husable : Usable origin.files location content executable)
    (hlocate : origin.locate path = .ok location) :
    (expected .write answer origin path).2.node location =
      some (.file text.toUTF8 executable) := by
  simp only [expected, Stage.ending, husable.readText_eq hlocate, formatEnd, hanswer, settleEnd]
  by_cases hchanged : text = content
  · rw [if_pos hchanged, hchanged]
    exact husable.node
  · rw [if_neg hchanged]
    exact writeEnd_of_usable husable hlocate text

/-- Formatting one file gives a usable file its formatted text if it is that file. -/
theorem formatFile_usable (steady : Steady step paths)
    (htotal : ∀ input, steady.answer input = .ok (format input)) (hmoment : steady.Moment machine)
    (hfew : [path] ⊆ paths) (husable : Usable machine.files location content executable)
    {outcome : Except FileError Outcome} {made : Step Machine}
    (hfile : formatFile .write path step machine = ((outcome, made), next)) :
    ∃ text, Usable next.files location text executable ∧
      (machine.locate path = .ok location → text = format content) ∧
      (machine.locate path ≠ .ok location → text = content) := by
  obtain ⟨hsound, -, hnode⟩ := formatFile_sound steady hmoment hfew hfile
  by_cases hlocate : machine.locate path = .ok location
  · refine ⟨format content, husable.of_alike hsound.files ?_, fun _ => rfl,
      fun hother => absurd hlocate hother⟩
    rw [hnode location hlocate]
    exact expected_of_usable (htotal content) husable hlocate
  · refine ⟨content, husable.of_alike hsound.files ?_, fun hown => absurd hown hlocate,
      fun _ => rfl⟩
    rw [hsound.outside location (by simpa using hlocate)]
    exact husable.node

theorem formatEach_usable (hidempotent : ∀ input, format (format input) = format input)
    {rest : List Path} (steady : Steady step paths)
    (htotal : ∀ input, steady.answer input = .ok (format input)) (hrest : rest ⊆ paths)
    (hmoment : steady.Moment machine)
    (husable : Usable machine.files location content executable) {reports : List Report}
    {made : Step Machine}
    (heach : formatEach .write rest step machine = ((reports, made), next)) :
    ∃ text, Usable next.files location text executable ∧
      (text = content ∨ text = format content) ∧
      ((∃ path ∈ rest, machine.locate path = .ok location) → text = format content) ∧
      ∀ path, next.locate path = machine.locate path := by
  induction rest generalizing step machine content reports with
  | nil =>
      cases heach
      exact ⟨content, husable, .inl rfl, by simp, fun _ => rfl⟩
  | cons path rest induction =>
      rcases hfile : formatFile .write path step machine with ⟨⟨outcome, between⟩, middle⟩
      rcases hlater : formatEach .write rest between middle with ⟨⟨others, last⟩, final⟩
      simp only [formatEach, bind, StateT.bind, hfile, hlater] at heach
      cases heach
      have hfew : [path] ⊆ paths := by simpa using hrest List.mem_cons_self
      obtain ⟨hsound, -⟩ := formatFile_sound steady hmoment hfew hfile
      obtain ⟨held, hheld, hown, hother⟩ :=
        formatFile_usable steady htotal hmoment hfew husable hfile
      have hfollowing : ∃ text, Usable next.files location text executable ∧
          (text = held ∨ text = format held) ∧
          ((∃ path ∈ rest, middle.locate path = .ok location) → text = format held) ∧
          ∀ path, next.locate path = middle.locate path := by
        have hrest : rest ⊆ paths := fun named hnamed => hrest (List.mem_cons_of_mem _ hnamed)
        -- the first file may have been what made the step initialize
        rcases hsound.step with hsame | hsettled
        · obtain rfl : between = step := hsame
          exact induction steady htotal hrest hsound.moment hheld hlater
        · obtain rfl : between = step.settled steady.outcome := hsettled
          exact induction steady.resolved htotal hrest hsound.moment hheld hlater
      obtain ⟨text, htext, hcases, hlisted, hlater⟩ := hfollowing
      have hsame (path : Path) : next.locate path = machine.locate path :=
        (hlater path).trans (hsound.locate_eq path)
      by_cases hlocate : machine.locate path = .ok location
      · obtain rfl := hown hlocate
        rw [hidempotent] at hcases
        exact ⟨text, htext, .inr (hcases.elim id id), fun _ => hcases.elim id id, hsame⟩
      · obtain rfl := hother hlocate
        refine ⟨text, htext, hcases, ?_, hsame⟩
        rintro ⟨named, hmem, hnamed⟩
        rcases List.mem_cons.mp hmem with rfl | hmem
        · exact absurd hnamed hlocate
        · exact hlisted ⟨named, hmem, by rwa [hsound.locate_eq]⟩

/-! Tasks that act in any order. -/

/-- A stage in which the file still holds the text it had at first. -/
inductive Calm (format : String → String) (content : String) : Stage Machine → Prop
  | arriving : Calm format content .arriving
  | holding (use : Use Machine) : Calm format content (.holding content use)
  | formatted : Calm format content (.formatted content (format content))
  | finished (outcome : Except FileError Outcome) (hsame : format content = content) :
      Calm format content (.finished outcome)

/-- A stage that can follow once the file has been opened. Every text that was read is formatted
already or has the formatted text of the file. -/
inductive Stirred (format : String → String) (text : String) : Stage Machine → Prop
  | arriving : Stirred format text .arriving
  | holding {seen : String} (hseen : format seen = seen ∨ format seen = text) (use : Use Machine) :
      Stirred format text (.holding seen use)
  | formatted {seen : String} (hseen : format seen = seen ∨ format seen = text) :
      Stirred format text (.formatted seen (format seen))
  | filling (location : Location) : Stirred format text (.filling location text)
  | finished (outcome : Except FileError Outcome) : Stirred format text (.finished outcome)

/-- All tasks on a file are at such stages. -/
def AllAt (origin : Machine) (location : Location) (tasks : List (Task Machine))
    (Reached : Stage Machine → Prop) : Prop :=
  ∀ task ∈ tasks, origin.locate task.path = .ok location → Reached task.stage

/-- Some task has a file open. -/
def Opened (origin : Machine) (location : Location) (tasks : List (Task Machine)) : Prop :=
  ∃ task ∈ tasks, origin.locate task.path = .ok location ∧
    ∃ text, task.stage = .filling location text

inductive Phase (format : String → String) (origin : Machine) (location : Location)
    (content : String) (executable : Bool) (tasks : List (Task Machine)) (files : FileSystem) : Prop
  | calm (husable : Usable files location content executable)
      (htasks : AllAt origin location tasks (Calm format content))
  | stirred (held : String) (husable : Usable files location held executable)
      (hheld : held = format content ∨ held = "" ∧ Opened origin location tasks)
      (hchanged : format content ≠ content)
      (htasks : AllAt origin location tasks (Stirred format (format content)))

theorem AllAt.set {Reached : Stage Machine → Prop} (htasks : AllAt origin location tasks Reached)
    (hlater : origin.locate path = .ok location → Reached later) (index : Nat) :
    AllAt origin location (tasks.set index ⟨path, later⟩) Reached :=
  forall_mem_set htasks hlater index

theorem AllAt.of_getElem? {Reached : Stage Machine → Prop}
    (htasks : AllAt origin location tasks Reached)
    (hindex : tasks[index]? = some ⟨path, stage⟩) (hlocate : origin.locate path = .ok location) :
    Reached stage :=
  htasks _ (List.mem_of_getElem? hindex) hlocate

theorem Opened.set (hopened : Opened origin location tasks)
    (hindex : tasks[index]? = some ⟨path, stage⟩)
    (hstage : origin.locate path = .ok location → ∀ text, stage ≠ .filling location text) :
    Opened origin location (tasks.set index ⟨path, later⟩) := by
  obtain ⟨task, hmem, hlocate, text, hfilling⟩ := hopened
  refine ⟨task, Batch.mem_set_of_ne hmem hindex ?_ _, hlocate, text, hfilling⟩
  rintro rfl
  exact hstage hlocate text hfilling

theorem Calm.stirred (hcalm : Calm format content stage) :
    Stirred format (format content) stage := by
  cases hcalm with
  | arriving => exact .arriving
  | holding use => exact .holding (.inr rfl) use
  | formatted => exact .formatted (.inr rfl)
  | finished outcome hsame => exact .finished outcome

theorem Calm.formatted_eq {seen : String} (hcalm : Calm format content (.formatted seen text)) :
    seen = content ∧ text = format content := by
  cases hcalm
  exact ⟨rfl, rfl⟩

theorem Stirred.formatted_eq {seen final : String}
    (hstirred : Stirred format final (.formatted seen text)) (hchanged : text ≠ seen) :
    text = final := by
  cases hstirred with
  | formatted hseen => exact hseen.resolve_left hchanged

theorem Usable.names_eq {directory place : Location} {octets : ByteArray} {flag : Bool}
    (husable : Usable files location content executable)
    (hlocate : files.locate directory path = .ok location)
    (hnames : Names files directory path place octets flag) :
    place = location ∧ octets = content.toUTF8 ∧ flag = executable := by
  obtain ⟨hplace, hnode⟩ := hnames
  rw [hlocate] at hplace
  cases hplace
  rw [husable.node] at hnode
  cases hnode
  exact ⟨rfl, rfl, rfl⟩

theorem usable_put (husable : Usable files location content executable) (text : String) :
    Usable (files.put location (.file text.toUTF8 executable)) location text executable :=
  husable.of_alike (FileSystem.alike_put husable.node _) (FileSystem.node_put_self ..)

section Moving

variable {steady : Steady step paths} (hsound : Sound steady origin ⟨cell, tasks⟩ machine)
  (htotal : ∀ input, steady.answer input = .ok (format input))
  (hindex : tasks[index]? = some ⟨path, stage⟩)
  (hmoves : Moves .write steady.answer origin.location path stage machine.files later after)

include hsound hindex hmoves

theorem Phase.set_of_other
    (hphase : Phase format origin location content executable tasks machine.files)
    (hother : origin.locate path ≠ .ok location) :
    Phase format origin location content executable (tasks.set index ⟨path, later⟩) after := by
  have hnode : after.node location = machine.files.node location :=
    hmoves.node_eq (by rwa [hsound.files.locate])
  cases hphase with
  | calm husable htasks =>
      refine .calm (husable.of_alike hmoves.alike (hnode.trans husable.node)) ?_
      exact htasks.set (fun hown => absurd hown hother) index
  | stirred held husable hheld hchanged htasks =>
      refine .stirred held (husable.of_alike hmoves.alike (hnode.trans husable.node)) ?_
        hchanged (htasks.set (fun hown => absurd hown hother) index)
      exact hheld.imp_right fun ⟨hempty, hopened⟩ =>
        ⟨hempty, hopened.set hindex fun hown => absurd hown hother⟩

include htotal

theorem Phase.set_of_calm (hown : origin.locate path = .ok location)
    (husable : Usable machine.files location content executable)
    (htasks : AllAt origin location tasks (Calm format content)) :
    Phase format origin location content executable (tasks.set index ⟨path, later⟩) after := by
  have hlocate := (hsound.files.locate origin.location path).trans hown
  have hstage := htasks.of_getElem? hindex hown
  cases hmoves with
  | unreadable hread =>
      rw [husable.readText_eq hlocate] at hread
      cases hread
  | read hread =>
      rw [husable.readText_eq hlocate] at hread
      cases hread
      exact .calm husable (htasks.set (fun _ => .holding _) index)
  | use =>
      cases hstage with
      | holding use => exact .calm husable (htasks.set (fun _ => .holding _) index)
  | reject hanswer =>
      rw [htotal] at hanswer
      cases hanswer
  | format hanswer =>
      rw [htotal] at hanswer
      cases hanswer
      cases hstage with
      | holding use => exact .calm husable (htasks.set (fun _ => .formatted) index)
  | keep =>
      obtain ⟨rfl, hsame⟩ := hstage.formatted_eq
      exact .calm husable (htasks.set (fun _ => .finished _ hsame.symm) index)
  | report hchanged hmode => cases hmode
  | refuse hchanged hmode hnames hrefused =>
      obtain ⟨rfl, -, -⟩ := husable.names_eq hlocate hnames
      rw [husable.refusesOpen] at hrefused
      cases hrefused
  | empty hchanged hmode hnames hallowed =>
      obtain ⟨rfl, -, rfl⟩ := husable.names_eq hlocate hnames
      obtain ⟨rfl, rfl⟩ := hstage.formatted_eq
      refine .stirred "" (usable_put husable "") (.inr ⟨rfl, ?_⟩) hchanged ?_
      · exact ⟨_, List.mem_set (List.getElem?_eq_some_iff.mp hindex).1 _, hown, _, rfl⟩
      · have hstirred : AllAt origin _ tasks (Stirred format _) :=
          fun task hmem hown => (htasks task hmem hown).stirred
        exact hstirred.set (fun _ => .filling _) index
  | cut hnames hrefused => cases hstage
  | fill hnames haccepted => cases hstage
  | rest => exact .calm husable (htasks.set (fun _ => hstage) index)

theorem Phase.set_of_stirred (hidempotent : ∀ input, format (format input) = format input)
    (hwindow : format "" = "" ∨ format "" = format content) {held : String}
    (hown : origin.locate path = .ok location)
    (husable : Usable machine.files location held executable)
    (hheld : held = format content ∨ held = "" ∧ Opened origin location tasks)
    (hdiffers : format content ≠ content)
    (htasks : AllAt origin location tasks (Stirred format (format content))) :
    Phase format origin location content executable (tasks.set index ⟨path, later⟩) after := by
  have hlocate := (hsound.files.locate origin.location path).trans hown
  have hstage := htasks.of_getElem? hindex hown
  have hkept (hstage : ∀ text, stage ≠ .filling location text) (later : Stage Machine) :
      held = format content ∨
        held = "" ∧ Opened origin location (tasks.set index ⟨path, later⟩) :=
    hheld.imp_right fun ⟨hempty, hopened⟩ => ⟨hempty, hopened.set hindex fun _ => hstage⟩
  cases hmoves with
  | unreadable hread =>
      rw [husable.readText_eq hlocate] at hread
      cases hread
  | read hread =>
      rw [husable.readText_eq hlocate] at hread
      cases hread
      refine .stirred held husable (hkept nofun _) hdiffers (htasks.set (fun _ => ?_) index)
      refine .holding ?_ _
      -- a file that is open reads as empty, and this is where the window matters
      rcases hheld with rfl | ⟨rfl, -⟩
      · exact .inl (hidempotent content)
      · exact hwindow
  | use =>
      cases hstage with
      | holding hseen use =>
          exact .stirred held husable (hkept nofun _) hdiffers
            (htasks.set (fun _ => .holding hseen _) index)
  | reject hanswer =>
      rw [htotal] at hanswer
      cases hanswer
  | format hanswer =>
      rw [htotal] at hanswer
      cases hanswer
      cases hstage with
      | holding hseen use =>
          exact .stirred held husable (hkept nofun _) hdiffers
            (htasks.set (fun _ => .formatted hseen) index)
  | keep =>
      exact .stirred held husable (hkept nofun _) hdiffers
        (htasks.set (fun _ => .finished _) index)
  | report hchanged hmode => cases hmode
  | refuse hchanged hmode hnames hrefused =>
      obtain ⟨rfl, -, -⟩ := husable.names_eq hlocate hnames
      rw [husable.refusesOpen] at hrefused
      cases hrefused
  | empty hchanged hmode hnames hallowed =>
      obtain ⟨rfl, -, rfl⟩ := husable.names_eq hlocate hnames
      obtain rfl := hstage.formatted_eq hchanged
      refine .stirred "" (usable_put husable "") (.inr ⟨rfl, ?_⟩) hdiffers
        (htasks.set (fun _ => .filling _) index)
      exact ⟨_, List.mem_set (List.getElem?_eq_some_iff.mp hindex).1 _, hown, _, rfl⟩
  | cut hnames hrefused =>
      obtain ⟨rfl, -, -⟩ := husable.names_eq hlocate hnames
      rw [husable.refusesWrite] at hrefused
      cases hrefused
  | fill hnames haccepted =>
      obtain ⟨rfl, rfl, rfl⟩ := husable.names_eq hlocate hnames
      cases hstage
      -- an open file is empty unless another task has written the same text meanwhile
      have hwritten : FileSystem.overwritten held.toUTF8 (format content).toUTF8 =
          (format content).toUTF8 := by
        rcases hheld with rfl | ⟨rfl, -⟩
        · exact FileSystem.overwritten_self _
        · exact FileSystem.overwritten_empty _
      rw [hwritten]
      exact .stirred _ (usable_put husable _) (.inl rfl) hdiffers
        (htasks.set (fun _ => .finished _) index)
  | rest =>
      exact .stirred held husable (hkept nofun _) hdiffers
        (htasks.set (fun _ => .finished _) index)

end Moving

theorem phase_run (steady : Steady step paths)
    (htotal : ∀ input, steady.answer input = .ok (format input))
    (hidempotent : ∀ input, format (format input) = format input)
    (hwindow : format content = content ∨ format "" = "" ∨ format "" = format content)
    (hmoment : steady.Moment machine) (hquiet : Quiet origin machine)
    (husable : Usable origin.files location content executable) {schedule : List Nat}
    {batch : Batch Machine}
    (hrun : (Batch.start paths step).run .write schedule machine = (batch, next)) :
    Phase format origin location content executable batch.tasks next.files := by
  obtain ⟨rfl, rfl⟩ := Prod.mk.inj hrun.symm
  refine (Sound.run (Phase format origin location content executable) ?_
    (sound_start hmoment hquiet) ?_ schedule).2
  · intro cell tasks machine index path stage later files hsound hphase hindex hmoves
    by_cases hown : origin.locate path = .ok location
    · cases hphase with
      | calm husable htasks =>
          exact Phase.set_of_calm hsound htotal hindex hmoves hown husable htasks
      | stirred held husable hheld hchanged htasks =>
          exact Phase.set_of_stirred hsound htotal hindex hmoves hidempotent
            (hwindow.resolve_left hchanged) hown husable hheld hchanged htasks
    · exact hphase.set_of_other hsound hindex hmoves hown
  · rw [hquiet.files]
    refine .calm husable fun task hmem _ => ?_
    obtain ⟨path, -, rfl⟩ := List.mem_map.mp hmem
    exact .arriving

/-- Once all tasks have ended, a file that was listed holds its formatted text. -/
theorem Phase.usable {reports : List Report} {outcome : Except FileError Outcome}
    (hphase : Phase format origin location content executable (reports.map Report.task) files)
    (hreport : ⟨path, outcome⟩ ∈ reports) (hlocate : origin.locate path = .ok location) :
    Usable files location (format content) executable := by
  cases hphase with
  | calm husable htasks =>
      cases htasks _ (List.mem_map.mpr ⟨_, hreport, rfl⟩) hlocate with
      | finished outcome hsame => rwa [hsame]
  | stirred held husable hheld hchanged htasks =>
      rcases hheld with rfl | ⟨-, task, hmem, -, text, hfilling⟩
      · exact husable
      · obtain ⟨report, -, rfl⟩ := List.mem_map.mp hmem
        cases hfilling

/-- A file that is listed at least once holds its formatted text after the files have been
formatted one after another. So it does when they are formatted together, in whatever order,
if it is listed just once, or is formatted already, or if a task that reads it while it is
empty does no harm. -/
theorem repeated_run (steady : Steady step paths)
    (htotal : ∀ input, steady.answer input = .ok (format input))
    (hidempotent : ∀ input, format (format input) = format input)
    (hmoment : steady.Moment machine) (hpath : path ∈ paths)
    (hlocate : machine.locate path = .ok location)
    (husable : Usable machine.files location content executable) :
    let safe := (∃ place, Lone machine paths place path) ∨ format content = content ∨
      format "" = "" ∨ format "" = format content
    (∀ queue, queue.Perm paths →
      (formatEach .write queue step machine).2.readText path = .ok (format content)) ∧
    (∀ order, Fair paths.length order → ∃ count reports,
      (formatTogether .write paths step (turns order 0 count) machine).1.reports? =
        some reports) ∧
    (safe → ∀ schedule batch reports after,
      formatTogether .write paths step schedule machine = (batch, after) →
      batch.reports? = some reports → after.readText path = .ok (format content)) ∧
    (safe → (formatFiles .write paths step machine).2.readText path = .ok (format content)) := by
  intro safe
  have htogether : safe → ∀ schedule batch reports after,
      formatTogether .write paths step schedule machine = (batch, after) →
      batch.reports? = some reports → after.readText path = .ok (format content) := by
    intro hsafe schedule batch reports after hrun hreports
    have hsound := sound_formatTogether hmoment hrun
    have hplace := (hsound.locate_eq path).trans hlocate
    rcases hsafe with ⟨place, hlone⟩ | hwindow
    · obtain ⟨outcome, -, -, hnode⟩ := hlone.sameEnd hmoment hrun hreports
      have hend := (hnode location hlocate).trans
        (expected_of_usable (htotal content) husable hlocate)
      exact (husable.of_alike hsound.files hend).readText_eq hplace
    · have hphase := phase_run steady htotal hidempotent hwindow (steady.record _ _ hmoment)
        (quiet_record machine _) husable hrun
      rw [Batch.reports?_eq_some_iff.mp hreports] at hphase
      rw [← hsound.paths_eq hreports, List.mem_map] at hpath
      obtain ⟨report, hreport, rfl⟩ := hpath
      exact (hphase.usable hreport hlocate).readText_eq hplace
  refine ⟨fun queue hperm => ?_,
    fun order hfair => exists_reports_formatTogether hfair .write step machine, htogether,
    fun hsafe => ?_⟩
  · rcases heach : formatEach .write queue step machine with ⟨⟨reports, made⟩, next⟩
    obtain ⟨text, husable, -, hlisted, hsame⟩ := formatEach_usable hidempotent steady htotal
      hperm.subset hmoment husable heach
    obtain rfl := hlisted ⟨path, hperm.mem_iff.mpr hpath, hlocate⟩
    exact husable.readText_eq ((hsame path).trans hlocate)
  · rcases hfiles : formatFiles .write paths step machine with ⟨⟨reports, made⟩, next⟩
    obtain ⟨batch, hrun, hreports, -⟩ := formatFiles_of_formatTogether hfiles
    exact htogether hsafe _ batch reports next hrun hreports

theorem repeated_run_of_twice :
    let paths : List Path := [⟨"/a.kt"⟩, ⟨"/a.kt"⟩]
    let step := Step.ofFunction fun _ => "y"
    (formatEach .write paths step (oneFile "x" none)).2.readText ⟨"/a.kt"⟩ = .ok "y" ∧
    (formatFiles .write paths step (oneFile "x" none)).2.readText ⟨"/a.kt"⟩ = .ok "y" ∧
    ∀ schedule batch reports after,
      formatTogether .write paths step schedule (oneFile "x" none) = (batch, after) →
      batch.reports? = some reports → after.readText ⟨"/a.kt"⟩ = .ok "y" := by
  intro paths step
  have husable : Usable (oneFile "x" none).files ["a.kt"] "x" false := ⟨rfl, rfl, rfl, rfl⟩
  obtain ⟨hqueue, -, htogether, hfiles⟩ := repeated_run (Steady.ofFunction (fun _ => "y") paths)
    (fun _ => rfl) (fun _ => rfl) trivial List.mem_cons_self rfl husable
  exact ⟨hqueue paths (.refl paths), hfiles (.inr (.inr (.inr rfl))),
    htogether (.inr (.inr (.inr rfl)))⟩

/-! A text that is lost. -/

theorem replaceFrom_mark (mark : Char) (text : List Char) :
    Substitution.replaceFrom [mark] [] 0 text = text.filter (· ≠ mark) := by
  induction text with
  | nil => rfl
  | cons present rest induction =>
      by_cases hmark : mark = present
      · subst hmark
        simpa [Substitution.replaceFrom, List.isPrefixOf] using induction
      · simpa [Substitution.replaceFrom, List.isPrefixOf, hmark, Ne.symm hmark] using induction

/-- Takes the marks of a text away and puts one around every character that is left. -/
def marked : String → String :=
  Substitution.substituted [("m", ""), ("", "m")]

def surrounded (text : List Char) : List Char :=
  'm' :: text.flatMap fun character => [character, 'm']

theorem marked_eq (text : String) :
    marked text = String.ofList (surrounded (text.toList.filter (· ≠ 'm'))) := by
  have hremoved := replaceFrom_mark 'm' text.toList
  simp [marked, surrounded, Substitution.substituted, Substitution.replace, hremoved]

theorem filter_surrounded (text : List Char) :
    (surrounded text).filter (· ≠ 'm') = text.filter (· ≠ 'm') := by
  induction text with
  | nil => rfl
  | cons character rest induction =>
      simp only [surrounded, List.flatMap_cons] at induction ⊢
      by_cases hmark : character = 'm'
      · simpa [hmark] using induction
      · simpa [hmark] using induction

theorem marked_marked (text : String) : marked (marked text) = marked text := by
  rw [marked_eq (marked text), marked_eq text, String.toList_ofList, filter_surrounded,
    List.filter_filter]
  simp

instance decidableEqExcept {Error Value : Type} [DecidableEq Error] [DecidableEq Value] :
    DecidableEq (Except Error Value)
  | .ok left, .ok right => decidable_of_iff (left = right) (by rw [Except.ok.injEq])
  | .error left, .error right => decidable_of_iff (left = right) (by rw [Except.error.injEq])
  | .ok _, .error _ => isFalse nofun
  | .error _, .ok _ => isFalse nofun

deriving instance DecidableEq for Report

/-- A task that reads the file while another one has it open takes it for an empty file, and
writes what becomes of that over the formatted text. Formatted one after the other, the same
files come to what they should. -/
theorem lost_between_opening_and_writing :
    let paths : List Path := [⟨"/a.kt"⟩, ⟨"/a.kt"⟩]
    let machine := oneFile "x" none
    let apart := formatEach .write paths (Step.ofFunction marked) machine
    let together := formatFiles .write paths (Step.ofFunction marked)
      { machine with schedule := [0, 0, 0, 0, 0, 1, 1, 1, 0, 1, 1] }
    (∀ text, marked (marked text) = marked text) ∧ machine.readText ⟨"/a.kt"⟩ = .ok "x" ∧
      marked "x" = "mxm" ∧ apart.2.readText ⟨"/a.kt"⟩ = .ok "mxm" ∧
      apart.1.1 = [⟨⟨"/a.kt"⟩, .ok .formatted⟩, ⟨⟨"/a.kt"⟩, .ok .unchanged⟩] ∧
      together.2.readText ⟨"/a.kt"⟩ = .ok "m" ∧
      together.1.1 = [⟨⟨"/a.kt"⟩, .ok .formatted⟩, ⟨⟨"/a.kt"⟩, .ok .formatted⟩] := by
  refine ⟨marked_marked, ?_, ?_, ?_, ?_, ?_, ?_⟩ <;> decide +kernel

end CodeFormatting.Files
