import CodeFormatting.Proofs.Command.Ktfmt
import CodeFormatting.Proofs.Files.Prediction
import CodeFormatting.Proofs.Ktfmt.Steady
namespace CodeFormatting.Command

/-! A check says whether a writing run would change anything. -/

open Files (Steady Apart Fair Predicts formatTogether turns)

variable {paths : List Path} {step : Step Machine} {machine seen after : Machine}
  {steady : Steady step paths} {checking writing : List Nat} {batch written : Files.Batch Machine}
  {foreseen reports : List Files.Report}

/-- A check succeeds just if a writing run would, and would have nothing to do. -/
theorem success_iff_of_check (hapart : paths.Pairwise (Apart machine))
    (hmoment : steady.Moment machine)
    (hcheck : formatTogether .check paths step checking machine = (batch, seen))
    (hforeseen : batch.reports? = some foreseen)
    (hwrite : formatTogether .write paths step writing machine = (written, after))
    (hreports : written.reports? = some reports) :
    (conclude .check foreseen seen).1.success = true ↔
      (conclude .write reports after).1.success = true ∧ after.files = machine.files := by
  have hpredicts :=
    Files.predicts_reports hapart hmoment hcheck hforeseen hwrite hreports
  rw [success_check_iff, success_write_iff, Files.unchanged_iff_of_predicts hpredicts,
    Files.unchanged_iff_of_predicted hpredicts]
  exact and_congr_right fun hsucceeds =>
    (Files.files_eq_iff_of_write hapart hmoment hwrite hreports hsucceeds).symm

/-- A check changes no file. What it reports is what a writing run comes to, file by file, and
it ends well just if a writing run would end well without changing a file. -/
theorem prediction_run (steady : Steady step paths) (hmoment : steady.Moment machine)
    (hapart : paths.Pairwise (Apart machine)) :
    (∀ schedule,
      (formatTogether .check paths step schedule machine).2.files = machine.files) ∧
    (∀ order, Fair paths.length order → ∀ mode, ∃ count reports,
      (formatTogether mode paths step (turns order 0 count) machine).1.reports? = some reports) ∧
    (∀ checking writing batch written foreseen reports seen after,
      formatTogether .check paths step checking machine = (batch, seen) →
      batch.reports? = some foreseen →
      formatTogether .write paths step writing machine = (written, after) →
      written.reports? = some reports →
      List.Forall₂ Predicts foreseen reports ∧
        ((conclude .check foreseen seen).1.success = true ↔
          (conclude .write reports after).1.success = true ∧ after.files = machine.files)) ∧
    ∀ (checking writing : Call) source (given : KtfmtArguments) config,
      checking.environment = writing.environment →
      Arguments.parse checking.arguments =
        .ok ⟨source, .ktfmt { given with check := true, files := paths }⟩ →
      Arguments.parse writing.arguments =
        .ok ⟨source, .ktfmt { given with check := false, files := paths }⟩ →
      paths ≠ [] → configOf machine ⟨source, .ktfmt given⟩ = .ok config →
      stepOf checking.environment machine.home (given.onto config.ktfmt) = .ok step →
      ((run checking machine).1.code = 0 ↔
        (run writing machine).1.code = 0 ∧ (run writing machine).2.files = machine.files) := by
  refine ⟨fun schedule => Files.files_of_check hmoment rfl, fun order hfair mode =>
    Files.exists_reports_formatTogether hfair mode step machine, ?_, ?_⟩
  · intro checking writing batch written foreseen reports seen after hcheck hforeseen hwrite
      hreports
    exact ⟨Files.predicts_reports hapart hmoment hcheck hforeseen hwrite hreports,
      success_iff_of_check hapart hmoment hcheck hforeseen hwrite hreports⟩
  · intro checking writing source given config henvironment hcheck hwrite hpaths hconfig hstep
    rcases hforeseen : Files.formatFiles .check paths step (configured config machine) with
      ⟨⟨foreseen, made⟩, seen⟩
    rcases hreports : Files.formatFiles .write paths step (configured config machine) with
      ⟨⟨reports, left⟩, after⟩
    obtain ⟨batch, hchecked, hbatch, -⟩ := Files.formatFiles_of_formatTogether hforeseen
    obtain ⟨written, hwritten, hdone, -⟩ := Files.formatFiles_of_formatTogether hreports
    have hlater : paths.Pairwise (Apart (configured config machine)) := hapart
    have hstarted : steady.Moment (configured config machine) := steady.record _ _ hmoment
    have hsuccess :=
      success_iff_of_check hlater hstarted hchecked hbatch hwritten hdone
    obtain ⟨hcheckCode, -⟩ := run_files hcheck hconfig hstep hpaths hforeseen
    obtain ⟨hwriteCode, hwriteFiles⟩ :=
      run_files hwrite hconfig (henvironment ▸ hstep) hpaths hreports
    rw [hcheckCode, hwriteCode, hwriteFiles]
    exact hsuccess

def jarLocation : Location :=
  ["ktfmt-0.21-jar-with-dependencies.jar", "0.21", "ktfmt", "facebook", "com", "repository"]

/-- A machine with one file to format and a ktfmt that answers everything with one text. -/
def installed (formatted : String) : Machine :=
  let machine := Files.oneFile "x" none
  { machine with
    files := machine.files.install jarLocation (.file .empty false)
    execute := fun files _ _ => (files, .ok ⟨.ok (), .exited 0, formatted.toUTF8, .empty⟩) }

def located : KtfmtArguments :=
  { java := some ⟨"/java"⟩, repository := some ⟨"/repository"⟩ }

def formatting (options : List String) : Call :=
  ⟨.empty, ["ktfmt", "--java", "/java", "--repository", "/repository"] ++ options ++ ["/a.kt"],
    .empty⟩

theorem prediction_run_of_installed :
    (run (formatting ["--check"]) (installed "y")).1.code = 0 ↔
      (run (formatting []) (installed "y")).1.code = 0 ∧
        (run (formatting []) (installed "y")).2.files = (installed "y").files := by
  have hcheck : Arguments.parse (formatting ["--check"]).arguments =
      .ok ⟨none, .ktfmt { located with check := true, files := [⟨"/a.kt"⟩] }⟩ := rfl
  have hwrite : Arguments.parse (formatting []).arguments =
      .ok ⟨none, .ktfmt { located with check := false, files := [⟨"/a.kt"⟩] }⟩ := rfl
  have hconfig : configOf (installed "y") ⟨none, .ktfmt located⟩ = .ok {} := rfl
  obtain ⟨step, hstep⟩ : ∃ step, stepOf .empty none (located.onto {}) = .ok step := ⟨_, rfl⟩
  have hsame : Undisturbed (installed "y")
      (fun _ => .ok ⟨.ok (), .exited 0, "y".toUTF8, .empty⟩) (installed "y") :=
    ⟨rfl, rfl, .refl _, fun _ _ _ => rfl⟩
  obtain ⟨steady, hmoment⟩ := exists_steady_of_stepOf hsame hstep [⟨"/a.kt"⟩]
  exact (prediction_run steady hmoment (List.pairwise_singleton _ _)).2.2.2
    (formatting ["--check"]) (formatting []) none located {} rfl hcheck hwrite nofun hconfig hstep

end CodeFormatting.Command
