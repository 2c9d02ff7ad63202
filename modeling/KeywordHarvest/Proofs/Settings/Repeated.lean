import KeywordHarvest.Proofs.Settings.AnyOrder
import KeywordHarvest.Proofs.Settings.Redundant

/-! Files that are layered more than once. Only the last copy of a file that loads counts, whatever
stands between the copies: where all layers load, the changes of a document that come again need not
be made before, and where one fails, its fault does not depend on what was merged. -/

namespace KeywordHarvest

variable {tree : FileTree}

namespace Settings

open Layer (Document Reaches)

variable {sources other : Sources} {first second : List Layer} {layer copy : Layer}
  {document : Document}

end Settings

end KeywordHarvest
