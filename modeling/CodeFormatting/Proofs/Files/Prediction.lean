import Mathlib.Data.List.Forall2
import CodeFormatting.Proofs.Files.Pointwise
namespace CodeFormatting.Files

/-! What a check says beforehand about the files that a writing run would change. -/

variable {mode : Mode} {path : Path} {paths : List Path} {step : Step Machine}
  {machine after next origin : Machine} {location : Location}
  {answer : String → Except FormatError String} {stage later : Stage Machine}
  {files rest : FileSystem} {directory : Location} {steady : Steady step paths}
  {schedule writing : List Nat} {batch written : Batch Machine} {foreseen reports : List Report}

/-- A report of a check, and the one of a writing run that it goes with. -/
inductive Predicts : Report → Report → Prop
  | unchanged (path : Path) : Predicts ⟨path, .ok .unchanged⟩ ⟨path, .ok .unchanged⟩
  | formatted (path : Path) : Predicts ⟨path, .ok .wouldFormat⟩ ⟨path, .ok .formatted⟩
  | unwritten (path : Path) (cause : IoError) :
      Predicts ⟨path, .ok .wouldFormat⟩ ⟨path, .error (.write path cause)⟩
  | unreadable (path : Path) (cause : IoError) :
      Predicts ⟨path, .error (.read path cause)⟩ ⟨path, .error (.read path cause)⟩
  | rejected (path : Path) (cause : FormatError) :
      Predicts ⟨path, .error (.format path cause)⟩ ⟨path, .error (.format path cause)⟩

/-! A check changes no file. -/

theorem Moves.files_eq_of_check
    (hmoves : Moves .check answer directory path stage files later rest)
    (hstage : ∀ location text, stage ≠ .filling location text) :
    rest = files ∧ ∀ location text, later ≠ .filling location text := by
  cases hmoves with
  | empty hchanged hmode hnames hallowed => cases hmode
  | cut hnames hrefused => exact absurd rfl (hstage _ _)
  | fill hnames haccepted => exact absurd rfl (hstage _ _)
  | _ => exact ⟨rfl, nofun⟩

theorem files_of_check (hmoment : steady.Moment machine)
    (hrun : formatTogether .check paths step schedule machine = (batch, after)) :
    after.files = machine.files := by
  obtain ⟨rfl, rfl⟩ := Prod.mk.inj hrun.symm
  refine (Sound.run (fun tasks files => files = machine.files ∧
    ∀ task ∈ tasks, ∀ location text, task.stage ≠ .filling location text) ?_
    (sound_start (steady.record _ _ hmoment) (quiet_record machine _)) ⟨rfl, ?_⟩ schedule).2.1
  · rintro cell tasks now index path stage later files - ⟨hsame, hstages⟩ hindex hmoves
    obtain ⟨hfiles, hlater⟩ :=
      hmoves.files_eq_of_check (hstages _ (List.mem_of_getElem? hindex))
    exact ⟨hfiles.trans hsame, forall_mem_set hstages hlater index⟩
  · intro task hmem
    obtain ⟨path, -, rfl⟩ := List.mem_map.mp hmem
    exact nofun

/-! The reports of both. -/

theorem predicts_expected (answer : String → Except FormatError String) (origin : Machine)
    (path : Path) :
    Predicts ⟨path, (expected .check answer origin path).1⟩
      ⟨path, (expected .write answer origin path).1⟩ := by
  simp only [expected, Stage.ending]
  cases origin.files.readText origin.location path with
  | error error => exact .unreadable path error
  | ok content =>
      simp only [formatEnd]
      cases answer content with
      | error error => exact .rejected path error
      | ok text =>
          simp only [settleEnd]
          by_cases hchanged : text = content
          · rw [if_pos hchanged, if_pos hchanged]
            exact .unchanged path
          · rw [if_neg hchanged, if_neg hchanged]
            rcases writeEnd_fst origin.location path text origin.files with
              hdone | ⟨cause, hfailed⟩
            · simp only [hdone]
              exact .formatted path
            · simp only [hfailed]
              exact .unwritten path cause

theorem predicts_reports (hapart : paths.Pairwise (Apart machine))
    (hmoment : steady.Moment machine)
    (hcheck : formatTogether .check paths step schedule machine = (batch, next))
    (hforeseen : batch.reports? = some foreseen)
    (hwrite : formatTogether .write paths step writing machine = (written, after))
    (hreports : written.reports? = some reports) : List.Forall₂ Predicts foreseen reports := by
  rw [reports_expected hapart hmoment hcheck hforeseen,
    reports_expected hapart hmoment hwrite hreports, List.forall₂_map_left_iff,
    List.forall₂_map_right_iff, List.forall₂_same]
  exact fun path _ => predicts_expected steady.answer machine path

theorem unchanged_iff_of_predicts (hpredicts : List.Forall₂ Predicts foreseen reports) :
    (∀ report ∈ foreseen, report.outcome = .ok .unchanged) ↔
      ∀ report ∈ reports, report.outcome = .ok .unchanged := by
  induction hpredicts with
  | nil => simp
  | cons hpredicts hrest induction =>
      simp only [List.mem_cons, forall_eq_or_imp, induction]
      cases hpredicts <;> simp

theorem unchanged_iff_of_predicted (hpredicts : List.Forall₂ Predicts foreseen reports) :
    (∀ report ∈ reports, report.outcome = .ok .unchanged) ↔
      (∀ report ∈ reports, ∃ outcome, report.outcome = .ok outcome) ∧
        ∀ report ∈ reports, report.outcome ≠ .ok .formatted := by
  induction hpredicts with
  | nil => simp
  | cons hpredicts hrest induction =>
      simp only [List.mem_cons, forall_eq_or_imp, induction]
      cases hpredicts <;> simp

/-- A writing run leaves all files as they are just if it reports nothing to be formatted. Files
that could not be written aside, that is. -/
theorem files_eq_iff_of_write (hapart : paths.Pairwise (Apart machine))
    (hmoment : steady.Moment machine)
    (hrun : formatTogether .write paths step writing machine = (written, after))
    (hreports : written.reports? = some reports)
    (hsucceeds : ∀ report ∈ reports, ∃ outcome, report.outcome = .ok outcome) :
    after.files = machine.files ↔ ∀ report ∈ reports, report.outcome ≠ .ok .formatted := by
  have hsound := sound_formatTogether hmoment hrun
  constructor
  · intro hsame report hmem hformatted
    rw [reports_expected hapart hmoment hrun hreports, List.mem_map] at hmem
    obtain ⟨path, hpath, rfl⟩ := hmem
    obtain ⟨content, text, location, executable, hread, -, hchanged, hlocate, -, hnode⟩ :=
      expected_of_formatted hformatted
    obtain ⟨place, flag, hplace, hbefore, -⟩ := FileSystem.readText_eq_ok_iff.mp hread
    obtain rfl : location = place := Except.ok.inj (hlocate.symm.trans hplace)
    have hafter := node_eq_expected hapart hmoment hrun hreports hpath hlocate
    rw [hsame, hnode, hbefore, Option.some.injEq, Node.file.injEq] at hafter
    exact hchanged (String.toByteArray_inj.mp hafter.1).symm
  · intro hunformatted
    refine FileSystem.ext (funext fun location => ?_) hsound.files.refusesRead
      hsound.files.refusesOpen hsound.files.refusesWrite
    refine node_eq_of_unwritten hapart hmoment hrun hreports fun path outcome hmem _ => ?_
    refine ⟨hunformatted _ hmem, fun cause hfailed => ?_⟩
    obtain ⟨success, hsuccess⟩ := hsucceeds _ hmem
    rw [hfailed] at hsuccess
    cases hsuccess

end CodeFormatting.Files
