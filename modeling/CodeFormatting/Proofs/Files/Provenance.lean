import CodeFormatting.Proofs.Files.Initialization
import CodeFormatting.Proofs.Ktfmt.Completion
namespace CodeFormatting.Files

/-! Where the texts are from that files are given, when they are formatted by a program. What a
program put out before it failed, or without having been given all of a file, is never
written. -/

open Ktfmt (Called Delivers Ends Judged Piped Piping Replied)

variable {mode : Mode} {path : Path} {content text : String} {step : Step Machine}
  {machine next : Machine} {launch : Launch} {cell after : Cell Machine}
  {stage later : Stage Machine} {tasks : List (Task Machine)} {index : Nat} {passed : List Machine}

/-- What formatting a single file comes to, and the files that it leaves. -/
inductive Came (mode : Mode) (path : Path) (machine : Machine) :
    Except FileError Outcome → FileSystem → Prop
  | unreadable {error : IoError} (hread : machine.readText path = .error error) :
      Came mode path machine (.error (.read path error)) machine.files
  | uninitialized {content : String} {cause : StepError}
      (hread : machine.readText path = .ok content) :
      Came mode path machine (.error (.format path (.initialization cause))) machine.files
  | rejected {launch : Launch} {error : Ktfmt.JavaError} {called : Machine}
      (hread : machine.readText path = .ok launch.input)
      (hcalled : Called machine launch (.error error) called) :
      Came mode path machine (.error (.format path (.delegate (.java error)))) called.files
  | unchanged {launch : Launch} {called : Machine}
      (hread : machine.readText path = .ok launch.input)
      (hcalled : Called machine launch (.ok launch.input) called) :
      Came mode path machine (.ok .unchanged) called.files
  | wouldFormat {launch : Launch} {text : String} {called : Machine} (hmode : mode = .check)
      (hread : machine.readText path = .ok launch.input)
      (hcalled : Called machine launch (.ok text) called) (hchanged : text ≠ launch.input) :
      Came mode path machine (.ok .wouldFormat) called.files
  | unopened {launch : Launch} {text : String} {called : Machine} {error : IoError}
      (hmode : mode = .write) (hread : machine.readText path = .ok launch.input)
      (hcalled : Called machine launch (.ok text) called) (hchanged : text ≠ launch.input)
      (hopen : called.files.openEmpty called.location path = .error error) :
      Came mode path machine (.error (.write path error)) called.files
  | cut {launch : Launch} {text : String} {called : Machine} {location : Location}
      {executable : Bool} {refusal : Refusal} (hmode : mode = .write)
      (hread : machine.readText path = .ok launch.input)
      (hcalled : Called machine launch (.ok text) called) (hchanged : text ≠ launch.input)
      (hlocate : called.locate path = .ok location)
      (hrefused : called.files.refusesWrite location = some refusal) :
      Came mode path machine (.error (.write path refusal.error))
        (called.files.put location
          (.file (text.toUTF8.extract 0 refusal.taken) executable))
  | formatted {launch : Launch} {text : String} {called : Machine} {location : Location}
      {executable : Bool} (hmode : mode = .write)
      (hread : machine.readText path = .ok launch.input)
      (hcalled : Called machine launch (.ok text) called) (hchanged : text ≠ launch.input)
      (hlocate : called.locate path = .ok location) :
      Came mode path machine (.ok .formatted)
        (called.files.put location (.file text.toUTF8 executable))

theorem came_settle (mode : Mode) (hread : machine.readText path = .ok launch.input)
    (hcalled : Called machine launch (.ok text) next) :
    Came mode path machine (settle mode path launch.input text next).1
      (settle mode path launch.input text next).2.files := by
  by_cases hchanged : text = launch.input
  · subst hchanged
    rw [settle_of_equal]
    show Came mode path machine (.ok .unchanged) next.files
    exact .unchanged hread hcalled
  cases mode with
  | check =>
      rw [settle_of_check hchanged]
      exact .wouldFormat rfl hread hcalled hchanged
  | write =>
      rcases hopen : next.files.openEmpty next.location path with error | ⟨location, opened⟩
      · rw [settle_of_refused hchanged hopen]
        exact .unopened rfl hread hcalled hchanged hopen
      obtain ⟨hlocate, executable, rfl⟩ := FileSystem.locate_of_openEmpty hopen
      have hpatched (octets : ByteArray) :
          (next.files.put location (.file .empty executable)).patch location octets =
            next.files.put location (.file octets executable) := by
        simp [FileSystem.patch_of_file (FileSystem.node_put_self ..)]
      rcases hfill : FileSystem.fill _ location text.toUTF8 with ⟨filled, error | _⟩
      · rw [settle_of_cut hchanged hopen hfill]
        obtain ⟨refusal, hrefused, rfl, rfl⟩ := FileSystem.fill_error_inv hfill
        rw [hpatched]
        exact .cut rfl hread hcalled hchanged hlocate hrefused
      · rw [settle_of_filled hchanged hopen hfill]
        obtain ⟨-, rfl⟩ := FileSystem.fill_ok_inv hfill
        rw [hpatched]
        exact .formatted rfl hread hcalled hchanged hlocate

theorem came_formatFile (hpiping : Piping step) (mode : Mode) (path : Path) (machine : Machine) :
    Came mode path machine (formatFile mode path step machine).1.1
      (formatFile mode path step machine).2.files := by
  cases hread : machine.readText path with
  | error error =>
      rw [formatFile_of_unreadable hread]
      exact .unreadable hread
  | ok content =>
      have hreplied := hpiping.format content machine
      rcases hformat : step.format content machine with ⟨⟨answer, after⟩, next⟩
      rw [hformat] at hreplied
      cases hreplied with
      | uninitialized hrecorded =>
          rw [formatFile_of_rejected hread hformat, hrecorded.files_eq]
          exact .uninitialized hread
      | rejected hinput hcalled =>
          rw [formatFile_of_rejected hread hformat]
          subst hinput
          exact .rejected hread hcalled
      | formatted hinput hcalled =>
          rw [formatFile_of_formatted hread hformat]
          subst hinput
          exact came_settle mode hread hcalled

/-! Files that are formatted together. Between two actions of a task there may be some of
others, so that a text is followed from the action that reads it to the one that writes what has
become of it. -/

/-- The machines that the actions of a run begin on. -/
def Batch.moments (mode : Mode) : Batch Machine → List Nat → Machine → List Machine
  | _, [], _ => []
  | batch, index :: rest, machine =>
    machine :: moments mode (batch.advance mode index machine).1 rest
      (batch.advance mode index machine).2

/-- The text came of the content of a file that had been read before. -/
def Delivered (passed : List Machine) (path : Path) (content text : String) : Prop :=
  ∃ reading calling, [reading, calling].Sublist passed ∧
    reading.readText path = .ok content ∧ Delivers calling content text

/-- What an action does to the files, if anything. They are left as the program left them that
was given what had been read, or a file is opened, which empties it, or the output of the
program goes to where it was opened. -/
inductive Touched (mode : Mode) (passed : List Machine) (path : Path) (machine : Machine) :
    FileSystem → Prop
  | called {reading : Machine} {launch : Launch} (hmem : reading ∈ passed)
      (hread : reading.readText path = .ok launch.input) :
      Touched mode passed path machine
        (machine.execute machine.files machine.directory launch).1
  | emptied {content text : String} {location : Location} {opened : FileSystem}
      (hmode : mode = .write) (hdelivered : Delivered passed path content text)
      (hchanged : text ≠ content)
      (hopen : machine.files.openEmpty machine.location path = .ok (location, opened)) :
      Touched mode passed path machine opened
  | filled {content text : String} {location : Location} {opening : Machine}
      {opened : FileSystem} (hmode : mode = .write)
      (hdelivered : Delivered passed path content text) (hchanged : text ≠ content)
      (hmem : opening ∈ passed)
      (hopen : opening.files.openEmpty opening.location path = .ok (location, opened)) :
      Touched mode passed path machine (machine.files.fill location text.toUTF8).1

inductive Traced (mode : Mode) (passed : List Machine) (path : Path) : Stage Machine → Prop
  | arriving : Traced mode passed path .arriving
  | holding {content : String} {use : Use Machine} {reading : Machine} (hmem : reading ∈ passed)
      (hread : reading.readText path = .ok content)
      (hpiped : ∀ engine, use = .resolved (.ok engine) → Piped engine) :
      Traced mode passed path (.holding content use)
  | formatted {content text : String} (hdelivered : Delivered passed path content text) :
      Traced mode passed path (.formatted content text)
  | filling {content text : String} {location : Location} {opening : Machine}
      {opened : FileSystem} (hmode : mode = .write)
      (hdelivered : Delivered passed path content text) (hchanged : text ≠ content)
      (hmem : opening ∈ passed)
      (hopen : opening.files.openEmpty opening.location path = .ok (location, opened)) :
      Traced mode passed path (.filling location text)
  | finished {outcome : Except FileError Outcome} : Traced mode passed path (.finished outcome)

structure Tracing (mode : Mode) (passed : List Machine) (batch : Batch Machine) : Prop where
  step : Piping batch.cell.step
  tasks : ∀ task ∈ batch.tasks, Traced mode passed task.path task.stage

theorem Delivered.concat (hdelivered : Delivered passed path content text) (machine : Machine) :
    Delivered (passed ++ [machine]) path content text := by
  obtain ⟨reading, calling, hsublist, hread⟩ := hdelivered
  exact ⟨reading, calling, hsublist.trans (List.sublist_append_left ..), hread⟩

theorem delivered_concat {reading : Machine} (hmem : reading ∈ passed)
    (hread : reading.readText path = .ok content) (hdelivers : Delivers machine content text) :
    Delivered (passed ++ [machine]) path content text := by
  refine ⟨reading, machine, ?_, hread, hdelivers⟩
  exact (List.singleton_sublist.mpr hmem).append (List.Sublist.refl [machine])

theorem Traced.concat (htraced : Traced mode passed path stage) (machine : Machine) :
    Traced mode (passed ++ [machine]) path stage := by
  cases htraced with
  | arriving => exact .arriving
  | holding hmem hread hpiped => exact .holding (List.mem_append_left _ hmem) hread hpiped
  | formatted hdelivered => exact .formatted (hdelivered.concat machine)
  | filling hmode hdelivered hchanged hmem hopen =>
      exact .filling hmode (hdelivered.concat machine) hchanged (List.mem_append_left _ hmem) hopen
  | finished => exact .finished

theorem replied_of_applied {outcome : Except StepError (Engine Machine)}
    {answer : Except FormatError String}
    (hpiped : ∀ engine, Use.resolved outcome = .resolved (.ok engine) → Piped engine)
    (happlied : Step.applied outcome content machine = (answer, next)) :
    Replied machine content answer next := by
  have hreplied := Ktfmt.replied_applied
    (fun engine hengine => hpiped engine (congrArg Use.resolved hengine)) content machine
  rwa [happlied] at hreplied

theorem Traced.touched_of_fill {location : Location} {filled : FileSystem}
    {result : Except IoError Unit} (htraced : Traced mode passed path (.filling location text))
    (hfill : machine.files.fill location text.toUTF8 = (filled, result)) :
    Touched mode passed path machine filled := by
  cases htraced with
  | filling hmode hdelivered hchanged hmem hopen =>
      obtain ⟨rfl, -⟩ := Prod.mk.inj hfill
      exact .filled hmode hdelivered hchanged hmem hopen

/-- One action of a task: what it does to the files, and where the task has come by it. -/
theorem Traced.act (htraced : Traced mode passed path stage) (hpiping : Piping cell.step)
    (hacts : Acts mode path stage cell machine later after next) :
    Traced mode (passed ++ [machine]) path later ∧ Piping after.step ∧
      (next.files = machine.files ∨ Touched mode passed path machine next.files) := by
  have hlast : machine ∈ passed ++ [machine] := by simp
  cases hacts with
  | unreadable hread => exact ⟨.finished, hpiping, .inl rfl⟩
  | read hread => exact ⟨.holding hlast hread nofun, hpiping, .inl rfl⟩
  | borrow hsettled =>
      cases htraced with
      | holding hmem hread =>
          refine ⟨.holding (List.mem_append_left _ hmem) hread ?_, hpiping, .inl rfl⟩
          intro engine hengine
          rw [Use.resolved.inj hengine] at hsettled
          exact hpiping.settled engine hsettled
  | wait hfresh hclaimed => exact ⟨htraced.concat machine, hpiping, .inl rfl⟩
  | claim hfresh hfree =>
      cases htraced with
      | holding hmem hread =>
          exact ⟨.holding (List.mem_append_left _ hmem) hread nofun, hpiping, .inl rfl⟩
  | prepare hinitializer =>
      have hrecorded := hpiping.recorded machine
      have hinitialized := hpiping.initialized machine
      rw [hinitializer] at hrecorded hinitialized
      cases htraced with
      | holding hmem hread =>
          refine ⟨.holding (List.mem_append_left _ hmem) hread ?_, hpiping.resolved hinitialized,
            .inl hrecorded.files_eq⟩
          intro engine hengine
          exact hinitialized engine (Use.resolved.inj hengine)
  | reject happlied =>
      cases htraced with
      | holding hmem hread hpiped =>
          refine ⟨.finished, hpiping, ?_⟩
          cases replied_of_applied hpiped happlied with
          | uninitialized hrecorded => exact .inl hrecorded.files_eq
          | rejected hinput hcalled =>
              subst hinput
              rw [hcalled.files_eq]
              exact .inr (.called hmem hread)
  | format happlied =>
      cases htraced with
      | holding hmem hread hpiped =>
          cases replied_of_applied hpiped happlied with
          | formatted hinput hcalled =>
              subst hinput
              rw [hcalled.files_eq]
              exact ⟨.formatted (delivered_concat hmem hread hcalled.delivers), hpiping,
                .inr (.called hmem hread)⟩
  | keep => exact ⟨.finished, hpiping, .inl rfl⟩
  | report hchanged hmode => exact ⟨.finished, hpiping, .inl rfl⟩
  | refuse hchanged hmode hopen => exact ⟨.finished, hpiping, .inl rfl⟩
  | empty hchanged hmode hopen =>
      cases htraced with
      | formatted hdelivered =>
          exact ⟨.filling hmode (hdelivered.concat machine) hchanged hlast hopen, hpiping,
            .inr (.emptied hmode hdelivered hchanged hopen)⟩
  | cut hfill => exact ⟨.finished, hpiping, .inr (htraced.touched_of_fill hfill)⟩
  | fill hfill => exact ⟨.finished, hpiping, .inr (htraced.touched_of_fill hfill)⟩
  | rest => exact ⟨.finished, hpiping, .inl rfl⟩

theorem Tracing.set (htracing : Tracing mode passed ⟨cell, tasks⟩) (hpiping : Piping after.step)
    (hlater : Traced mode (passed ++ [machine]) path later) (index : Nat) :
    Tracing mode (passed ++ [machine]) ⟨after, tasks.set index ⟨path, later⟩⟩ where
  step := hpiping
  tasks := forall_mem_set (fun task hmem => (htracing.tasks task hmem).concat machine) hlater index

theorem Tracing.advance {batch : Batch Machine} (htracing : Tracing mode passed batch) (index : Nat)
    (machine : Machine) :
    Tracing mode (passed ++ [machine]) (batch.advance mode index machine).1 ∧
      ((batch.advance mode index machine).2.files = machine.files ∨
        ∃ path ∈ batch.tasks.map Task.path,
          Touched mode passed path machine (batch.advance mode index machine).2.files) := by
  rcases hindex : batch.tasks[index]? with _ | ⟨path, stage⟩
  · rw [Batch.advance_of_absent hindex]
    exact ⟨⟨htracing.step, fun task hmem => (htracing.tasks task hmem).concat machine⟩, .inl rfl⟩
  · have hmem := List.mem_of_getElem? hindex
    have hacts := acts_act mode path stage batch.cell machine
    rw [Batch.advance_of_act hindex rfl]
    obtain ⟨hlater, hpiping, htouched⟩ := (htracing.tasks _ hmem).act htracing.step hacts
    refine ⟨htracing.set hpiping hlater index, htouched.imp_right ?_⟩
    intro htouched
    exact ⟨path, List.mem_map_of_mem hmem, htouched⟩

theorem Tracing.run {batch : Batch Machine} (htracing : Tracing mode passed batch)
    (schedule : List Nat) (machine : Machine) :
    Tracing mode (passed ++ batch.moments mode schedule machine)
      (batch.run mode schedule machine).1 := by
  induction schedule generalizing passed batch machine with
  | nil =>
      rw [Batch.moments, List.append_nil]
      exact htracing
  | cons index rest induction =>
      have hrest := induction (htracing.advance index machine).1
        (batch.advance mode index machine).2
      rwa [List.append_assoc, List.singleton_append] at hrest

theorem tracing_start (hpiping : Piping step) (mode : Mode) (paths : List Path) :
    Tracing mode [] (Batch.start paths step) where
  step := hpiping
  tasks task hmem := by
    rw [arriving_of_mem_start hmem]
    exact .arriving

theorem touched_formatTogether (hpiping : Piping step) (mode : Mode) (paths : List Path)
    (schedule : List Nat) (index : Nat) (machine : Machine) :
    let now := (formatTogether mode paths step schedule machine).2
    let next := (formatTogether mode paths step (schedule ++ [index]) machine).2
    next.files = now.files ∨ ∃ path ∈ paths,
      Touched mode ((Batch.start paths step).moments mode schedule
        (begun mode paths step machine)) path now next.files := by
  intro now next
  have htracing := (tracing_start hpiping mode paths).run schedule (begun mode paths step machine)
  rw [List.nil_append, ← formatTogether_eq] at htracing
  have hpaths : (formatTogether mode paths step schedule machine).1.tasks.map Task.path = paths :=
    paths_tasks_formatTogether rfl
  obtain ⟨-, htouched⟩ := htracing.advance index now
  rw [hpaths] at htouched
  have hnext : next = ((formatTogether mode paths step schedule machine).1.advance mode index
      now).2 := by
    apply congrArg Prod.snd
    rw [formatTogether_eq, Batch.run_append]
    rfl
  rwa [hnext]

/-- The answer of a program is all that it put out if it ended with status zero, took all of its
input and put out a text, and else the first of these that does not hold is the error. A file is
given nothing but such answers of programs that were given all that the file held, be it
formatted alone or together with others. -/
theorem provenance_run :
    (∀ (program : Ktfmt.JavaProgram) (input : String) (machine : Machine)
      (completion : Completion),
      (∀ flag result, Ends machine ⟨program.java, program.arguments flag, input⟩ completion →
        ((program.run flag input machine).1 = result ↔ Judged completion result)) ∧
      (∀ result, Ends machine ⟨program.java, program.arguments none, input⟩ completion →
        Judged completion result →
        (program.format input machine).1 = Ktfmt.JavaProgram.asEngineError result) ∧
      ∀ options result,
        Ends machine ⟨program.java, program.arguments options.flag?, input⟩ completion →
        Judged completion result →
        (program.formatWithOptions options input machine).1 =
          Ktfmt.JavaProgram.asEngineError result) ∧
    ∀ (search : SearchPath.Search) (repository : Repository) (loader : Ktfmt.JavaLoader)
      (coordinate : Coordinate) (style : Ktfmt.Style),
      let step := Ktfmt.Configuration.step
        ⟨coordinate, style, repository.provisioner, loader.loaderBy search⟩
      (∀ mode path machine, Came mode path machine (formatFile mode path step machine).1.1
        (formatFile mode path step machine).2.files) ∧
      ∀ mode paths schedule index machine,
        let now := (formatTogether mode paths step schedule machine).2
        let next := (formatTogether mode paths step (schedule ++ [index]) machine).2
        next.files = now.files ∨ ∃ path ∈ paths,
          Touched mode ((Batch.start paths step).moments mode schedule
            (begun mode paths step machine)) path now next.files := by
  constructor
  · intro program input machine completion
    exact ⟨fun flag result hends => Ktfmt.run_eq_iff hends,
      fun result hends hjudged => Ktfmt.format_eq hends hjudged,
      fun options result hends hjudged => Ktfmt.formatWithOptions_eq hends hjudged⟩
  · intro search repository loader coordinate style step
    have hpiping := Ktfmt.piping_step search repository loader coordinate style
    exact ⟨came_formatFile hpiping, touched_formatTogether hpiping⟩

def brokenPipe : IoError :=
  .other "Broken pipe (os error 32)"

/-- A program that puts out a text and ends well, but has not read all of its input. -/
theorem provenance_run_of_brokenPipe :
    let completion : Completion := ⟨.error brokenPipe, .exited 0, "y".toUTF8, .empty⟩
    let machine := { oneFile "x" none with execute := fun files _ _ => (files, .ok completion) }
    let program : Ktfmt.JavaProgram := ⟨⟨"/java"⟩, "/ktfmt.jar", "Main", ⟨0, 21, 0⟩⟩
    (program.run none "x" machine).1 = .error (.io brokenPipe) := by
  intro completion machine program
  apply ((provenance_run.1 program "x" machine completion).1 none _ rfl).mpr
  exact .untaken rfl rfl

end CodeFormatting.Files
