import CodeFormatting.Files
import CodeFormatting.Proofs.FileSystem
namespace CodeFormatting

/-- A step whose engine computes a function and does nothing else. -/
def Step.ofFunction (format : String → String) : Step Machine where
  name := "function"
  key := ""
  initializer := fun machine =>
    (.ok fun input machine => (.ok (format input), machine), machine)
  outcome := none

namespace Step

variable {World : Type} {step : Step World} {outcome : Except StepError (Engine World)}

theorem format_of_outcome (hsettled : step.outcome = some outcome) (input : String)
    (world : World) :
    step.format input world =
      (((applied outcome input world).1, step), (applied outcome input world).2) := by
  simp only [Step.format, resolve, hsettled]
  rfl

theorem format_of_fresh (hfresh : step.outcome = none) {world made : World}
    (hinitializer : step.initializer world = (outcome, made)) (input : String) :
    step.format input world =
      (((applied outcome input made).1, step.settled outcome),
        (applied outcome input made).2) := by
  simp only [Step.format, resolve, hfresh, bind, StateT.bind, hinitializer]
  rfl

end Step

namespace Files

/-! What becomes of a single file, and what it holds once formatting it has failed. -/

variable {mode : Mode} {path : Path} {content text : String} {step after : Step Machine}
  {machine next : Machine} {location : Location} {files : FileSystem}

theorem settle_of_equal (mode : Mode) (path : Path) (content : String) (machine : Machine) :
    settle mode path content content machine =
      (.ok .unchanged, machine.record (.logged
        ⟨.trace, filesTarget, path.text ++ " is already formatted"⟩)) := by
  simp only [settle]
  rfl

theorem settle_of_check (hchanged : text ≠ content) (path : Path) (machine : Machine) :
    settle .check path content text machine = (.ok .wouldFormat, machine) := by
  simp only [settle, if_neg hchanged]
  rfl

theorem settle_of_refused {error : IoError} (hchanged : text ≠ content)
    (hopen : machine.files.openEmpty machine.location path = .error error) :
    settle .write path content text machine = (.error (.write path error), machine) := by
  simp only [settle, if_neg hchanged, writeChanged, writeText, openFile, bind, StateT.bind, hopen]
  rfl

theorem settle_of_cut {filled : FileSystem} {error : IoError} (hchanged : text ≠ content)
    (hopen : machine.files.openEmpty machine.location path = .ok (location, files))
    (hfill : files.fill location text.toUTF8 = (filled, .error error)) :
    settle .write path content text machine =
      (.error (.write path error), { machine with files := filled }) := by
  simp only [settle, if_neg hchanged, writeChanged, writeText, openFile, bind, StateT.bind, hopen,
    fillFile, hfill]
  rfl

theorem settle_of_filled {filled : FileSystem} (hchanged : text ≠ content)
    (hopen : machine.files.openEmpty machine.location path = .ok (location, files))
    (hfill : files.fill location text.toUTF8 = (filled, .ok ())) :
    settle .write path content text machine =
      (.ok .formatted, Machine.record { machine with files := filled } (.logged
        ⟨.debug, filesTarget, "Formatted " ++ path.text⟩)) := by
  simp only [settle, if_neg hchanged, writeChanged, writeText, openFile, bind, StateT.bind, hopen,
    fillFile, hfill]
  rfl

/-- Settling fails when a file cannot be opened, or when it is cut short after that. -/
theorem settle_error_inv {error : FileError}
    (hsettle : settle mode path content text machine = (.error error, next)) :
    mode = .write ∧ text ≠ content ∧
      (next.files = machine.files ∨ ∃ place refusal executable,
        machine.locate path = .ok place ∧ machine.files.refusesWrite place = some refusal ∧
          error = .write path refusal.error ∧
          next.files = machine.files.put place
            (.file (text.toUTF8.extract 0 refusal.taken) executable)) := by
  by_cases hchanged : text = content
  · subst hchanged
    rw [settle_of_equal] at hsettle
    cases hsettle
  cases mode with
  | check =>
      rw [settle_of_check hchanged] at hsettle
      cases hsettle
  | write =>
      refine ⟨rfl, hchanged, ?_⟩
      rcases hopen : machine.files.openEmpty machine.location path with refused | ⟨place, files⟩
      · rw [settle_of_refused hchanged hopen] at hsettle
        cases hsettle
        exact .inl rfl
      obtain ⟨hlocate, executable, rfl⟩ := FileSystem.locate_of_openEmpty hopen
      rcases hfill : FileSystem.fill _ place text.toUTF8 with ⟨filled, cause | _⟩
      · rw [settle_of_cut hchanged hopen hfill] at hsettle
        cases hsettle
        obtain ⟨refusal, hrefused, rfl, rfl⟩ := FileSystem.fill_error_inv hfill
        refine .inr ⟨place, refusal, executable, hlocate, hrefused, rfl, ?_⟩
        simp [FileSystem.patch_of_file (FileSystem.node_put_self ..)]
      · rw [settle_of_filled hchanged hopen hfill] at hsettle
        cases hsettle

theorem formatFile_of_unreadable {error : IoError} (hread : machine.readText path = .error error)
    (mode : Mode) (step : Step Machine) :
    formatFile mode path step machine = ((.error (.read path error), step), machine) := by
  simp only [formatFile, bind, StateT.bind, get, getThe, MonadStateOf.get, StateT.get, pure, hread]
  rfl

theorem formatFile_of_rejected {error : FormatError} (hread : machine.readText path = .ok content)
    (hformat : step.format content machine = ((.error error, after), next)) (mode : Mode) :
    formatFile mode path step machine = ((.error (.format path error), after), next) := by
  simp only [formatFile, bind, StateT.bind, get, getThe, MonadStateOf.get, StateT.get, pure, hread,
    hformat]
  rfl

theorem formatFile_of_formatted (hread : machine.readText path = .ok content)
    (hformat : step.format content machine = ((.ok text, after), next)) (mode : Mode) :
    formatFile mode path step machine =
      (let (outcome, last) := settle mode path content text next
      ((outcome, after), last)) := by
  simp only [formatFile, bind, StateT.bind, get, getThe, MonadStateOf.get, StateT.get, pure, hread,
    hformat]
  rfl

/-- The file was opened, which emptied it, and writing it failed then. It holds as much of
the formatted text as was taken. -/
def CutShort (path : Path) (step : Step Machine) (location : Location) (error : FileError)
    (machine next : Machine) : Prop :=
  ∃ content text after made refusal executable, machine.readText path = .ok content ∧
    step.format content machine = ((.ok text, after), made) ∧ text ≠ content ∧
    made.locate path = .ok location ∧ made.files.refusesWrite location = some refusal ∧
    error = .write path refusal.error ∧
    next.files.node location = some (.file (text.toUTF8.extract 0 refusal.taken) executable)

/-- A file whose formatting fails keeps what it held, provided that the engine leaves it alone
and that it was not cut short. -/
theorem content_of_failure {error : FileError}
    (hfailure : formatFile mode path step machine = ((.error error, after), next))
    (huntouched : ∀ content, machine.readText path = .ok content →
      (step.format content machine).2.files.node location = machine.files.node location) :
    next.files.node location = machine.files.node location ∨
      mode = .write ∧ CutShort path step location error machine next := by
  cases hread : machine.readText path with
  | error error =>
      rw [formatFile_of_unreadable hread] at hfailure
      cases hfailure
      exact .inl rfl
  | ok content =>
      have hkept := huntouched content hread
      rcases hformat : step.format content machine with ⟨⟨error | text, made⟩, later⟩
      · rw [formatFile_of_rejected hread hformat] at hfailure
        rw [hformat] at hkept
        cases hfailure
        exact .inl hkept
      · rw [formatFile_of_formatted hread hformat] at hfailure
        rw [hformat] at hkept
        rcases hsettle : settle mode path content text later with ⟨outcome, last⟩
        rw [hsettle] at hfailure
        cases hfailure
        obtain ⟨rfl, hchanged, hfiles | ⟨place, refusal, executable, hlocate, hrefused, rfl,
          hfiles⟩⟩ := settle_error_inv hsettle
        · exact .inl ((congrFun (congrArg FileSystem.node hfiles) location).trans hkept)
        · by_cases hplace : location = place
          · subst hplace
            refine .inr ⟨rfl, content, text, _, later, refusal, executable, hread, hformat,
              hchanged, hlocate, hrefused, rfl, ?_⟩
            rw [hfiles, FileSystem.node_put_self]
          · rw [hfiles, FileSystem.node_put_of_ne _ _ hplace]
            exact .inl hkept

def diskFull : IoError :=
  .other "No space left on device (os error 28)"

def oneFile (content : String) (refusal : Option Refusal) : Machine where
  files := { FileSystem.empty.put ["a.kt"] (.file content.toUTF8 false) with
    refusesWrite := fun _ => refusal }
  directory := ⟨"/"⟩
  home := none
  execute := fun files _ _ => (files, .error .notFound)
  journal := []

theorem content_of_failure_of_diskFull :
    let machine := oneFile "x" (some ⟨0, diskFull⟩)
    let step := Step.ofFunction (· ++ "\n")
    let next := (formatFile .write ⟨"/a.kt"⟩ step machine).2
    next.files.node ["a.kt"] = machine.files.node ["a.kt"] ∨
      Mode.write = .write ∧
        CutShort ⟨"/a.kt"⟩ step ["a.kt"] (.write ⟨"/a.kt"⟩ diskFull) machine next :=
  content_of_failure rfl fun _ _ => rfl

/-- On a full disk a file that was to be formatted is empty afterwards. -/
theorem emptied_of_diskFull :
    let machine := oneFile "x" (some ⟨0, diskFull⟩)
    let step := Step.ofFunction (· ++ "\n")
    let ((outcome, _), next) := formatFile .write ⟨"/a.kt"⟩ step machine
    (∀ content, (step.format content machine).2 = machine) ∧
      outcome = .error (.write ⟨"/a.kt"⟩ diskFull) ∧
      machine.readText ⟨"/a.kt"⟩ = .ok "x" ∧ next.readText ⟨"/a.kt"⟩ = .ok "" :=
  ⟨fun _ => rfl, rfl, rfl, rfl⟩

end Files
end CodeFormatting
