import KeywordHarvest.CommandLine
import KeywordHarvest.Proofs.Harvest.Outcome
import KeywordHarvest.Proofs.Settings.Document

/-! What loading settings and a run of the command leave of a tree. Loading only reads; a run
changes the tree only through generating, and only where it exits with 0. -/

namespace KeywordHarvest

variable {tree : FileTree} {host : Host}

theorem Settings.ofProject_frame {overrides : Overrides} :
    ((Settings.ofProject host overrides).run tree).2 = tree := by
  rw [Settings.ofProject, Settings.run_load]

namespace CommandLine

theorem Outcome.ofReport_failed {verbose : Bool} {output : Harvest → String}
    {report : Harvest.Report Harvest} (failed : (ofReport verbose output report).exitCode ≠ 0) :
    ∃ fault, report.result = .error fault := by
  unfold ofReport at failed
  cases ended : report.result with
  | ok harvest =>
      rw [ended] at failed
      exact absurd rfl failed
  | error fault => exact ⟨fault, rfl⟩

theorem Request.perform_frame {request : Request} {settings : Settings}
    (harmless : request.toStdout ∨ ((request.perform settings).run tree).1.exitCode ≠ 0) :
    ((request.perform settings).run tree).2 = tree := by
  unfold perform at harmless ⊢
  by_cases printed : request.toStdout = true
  · rw [if_pos printed, FileTask.run_bind, Harvest.run_ofInput]
    rfl
  · have failed := harmless.resolve_left printed
    rw [if_neg printed] at failed ⊢
    simp only [FileTask.run_bind, FileTask.run_pure] at failed ⊢
    obtain ⟨fault, unmade⟩ := Outcome.ofReport_failed failed
    exact Harvest.generate_eq_error unmade

theorem Request.run_frame {request : Request}
    (harmless : request.toStdout ∨ ((request.run host).run tree).1.exitCode ≠ 0) :
    ((request.run host).run tree).2 = tree := by
  unfold run at harmless ⊢
  simp only [FileTask.run_bind, Settings.ofProject_frame] at harmless ⊢
  cases found : ((Settings.ofProject host request.overrides).run tree).1 with
  | error fault => rfl
  | ok settings =>
      rw [found] at harmless
      exact perform_frame harmless

end CommandLine

end KeywordHarvest
