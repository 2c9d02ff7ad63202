import KeywordHarvest.Proofs.CommandLine.Printing
import KeywordHarvest.Proofs.Harvest.Commuting
import KeywordHarvest.Proofs.Settings.FirstFault
import KeywordHarvest.Session

/-! What the exit code of a run tells. It is 2 for wrong arguments and 1 for a run that was carried
out and failed, at loading its settings or at its harvest; such a run prints nothing and leaves the
files as they were. Only a run that has done what was asked exits with 0. There is one code more: an
index before the first element of a list, in a configuration file, crashes the run. -/

namespace KeywordHarvest.CommandLine

open Harvest (Generates)

variable {asked : Request} {settings : Settings} {tree after : FileTree} {harvest : Harvest}
  {outcome : Outcome} {host : Host}

namespace Request

def harvested (asked : Request) (settings : Settings) (tree : FileTree) :
    Except Harvest.Fault Harvest :=
  if asked.toStdout then ((Harvest.ofInput settings).run tree).1.result
  else ((Harvest.generate settings).run tree).1.result

def Crashes (host : Host) (asked : Request) (tree : FileTree) (report : String) : Prop :=
  ((Settings.ofProject host asked.overrides).run tree).1 = .error (.crash report)

inductive Fails (host : Host) (asked : Request) (tree : FileTree) : Prop
  | unconfigured {fault : Settings.Fault}
      (refused : ((Settings.ofProject host asked.overrides).run tree).1 = .error fault)
      (orderly : ∀ report, fault ≠ .crash report)
  | fruitless {settings : Settings} {fault : Harvest.Fault}
      (loaded : ((Settings.ofProject host asked.overrides).run tree).1 = .ok settings)
      (unmade : asked.harvested settings tree = .error fault)

inductive Ends (host : Host) (asked : Request) (tree : FileTree) : Outcome → FileTree → Prop
  | crashed {report : String} (crashes : Crashes host asked tree report) :
      Ends host asked tree ⟨101, "", report⟩ tree
  | failed {log message : String} (fails : Fails host asked tree) :
      Ends host asked tree (failure log message) tree
  | printed {settings : Settings} {harvest : Harvest} {log : String}
      (printing : asked.toStdout = true) (fair : ¬ Fails host asked tree)
      (loaded : ((Settings.ofProject host asked.overrides).run tree).1 = .ok settings) :
      Ends host asked tree ⟨0, harvest.rendered, log⟩ tree
  | stored {settings : Settings} {harvest : Harvest} {events : List Event} {after : FileTree}
      (fair : ¬ Fails host asked tree)
      (loaded : ((Settings.ofProject host asked.overrides).run tree).1 = .ok settings)
      (generates : Generates settings tree harvest after) :
      Ends host asked tree ⟨0, "", log asked.verbose events⟩ after

theorem Ends.harmless (ends : Ends host asked tree outcome after) (failed : outcome.exitCode ≠ 0) :
    outcome.stdout = "" ∧ after = tree := by
  cases ends with
  | crashed _ => exact ⟨rfl, rfl⟩
  | failed _ => exact ⟨rfl, rfl⟩
  | printed _ _ _ => exact absurd rfl failed
  | stored _ _ _ => exact absurd rfl failed

end Request

end KeywordHarvest.CommandLine
