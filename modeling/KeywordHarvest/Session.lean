import KeywordHarvest.CommandLine

/-! Everything that can be asked for, as operations with their answers. A session is a list of
operations on one file tree, with changes from outside in between. -/

namespace KeywordHarvest

inductive Operation
  | extract (marker text : String)
  | recognize (formatName : String)
  | render (listing : Listing) (keywords : List String)
  | harvestText (settings : Settings) (text : String)
  | harvestInput (settings : Settings)
  | generate (settings : Settings)
  | writeOutput (path : Path) (text : String)
  | defaults
  | load (sources : Sources)
  | command (arguments : List Bytes)

inductive Answer
  | extracted (result : Except Marker.Fault (List String))
  | format (result : Option Format)
  | rendered (text : String)
  | harvested (result : Except Harvest.Fault Harvest)
  | written (result : Except Harvest.Fault Unit)
  | loaded (result : Except Settings.Fault Settings)
  | ran (outcome : CommandLine.Outcome)

def extract (marker text : String) : Except Marker.Fault (List String) :=
  (Marker.ofText marker).map (·.keywords text)

def Operation.task (host : Host) : Operation → FileTask Answer
  | extract marker text => return .extracted (KeywordHarvest.extract marker text)
  | recognize name => return .format (Format.ofName? name)
  | render listing keywords => return .rendered (listing.write keywords)
  | harvestText settings text => return .harvested (Harvest.ofText settings text).result
  | harvestInput settings => do return .harvested (← Harvest.ofInput settings).result
  | generate settings => do return .harvested (← Harvest.generate settings).result
  | writeOutput path text => do return .written (← Harvest.writeOutput path text).result
  | defaults => do return .loaded (← Settings.load host ⟨false, [], {}⟩)
  | load sources => do return .loaded (← Settings.load host sources)
  | command arguments => do return .ran (← CommandLine.run host arguments)

namespace Session

/-- Each operation meets a host of its own. -/
inductive Step
  | operation (host : Host) (operation : Operation)
  | change (change : FileTree → FileTree)

def run : List Step → FileTree → List Answer × FileTree
  | [], tree => ([], tree)
  | .operation host operation :: steps, tree =>
      let (answer, tree) := (operation.task host).run tree
      let (answers, tree) := run steps tree
      (answer :: answers, tree)
  | .change change :: steps, tree => run steps (change tree)

end Session

end KeywordHarvest
