import KeywordHarvest.Proofs.Settings.FirstFault
import KeywordHarvest.Proofs.Settings.LastWriter

/-! Layers that make no difference. Of a table only the names that lead to settings matter, and what
stands under them comes from the writes to them alone; so a file whose keys lead to no setting can be
left out, and the same is loaded from what else is layered, in whatever order its keys come. -/

namespace KeywordHarvest

variable {tree : FileTree}

namespace Setting

variable {key name : String}

theorem lowerCase_name (setting : Setting) : Text.lowerCase setting.name = setting.name := by
  cases setting <;> decide +kernel

def isName (name : String) : Bool := (ofName? name).isSome

def isReached (name : String) : Bool := isName (Address.targetOf name).name

end Setting

/-- No key concerns a setting, neither as it is nor in lower case. -/
def Toml.Fields.IsForeign (fields : Fields) : Prop :=
  ∀ field ∈ fields, Setting.ofKey? field.1 = none ∧ Setting.ofKey? (Text.lowerCase field.1) = none

instance (fields : Toml.Fields) : Decidable fields.IsForeign :=
  inferInstanceAs (Decidable (∀ field ∈ fields, _))

namespace Table

variable {first second after other : Table} {rank : Rank}

/-- The part of a table under the names that lead to settings. -/
def reached (table : Table) : Table := table.filter (Setting.isReached ·.1)

end Table

namespace Layer

variable {document : Document}

end Layer

namespace Settings

open Layer (Document Fails Reaches)

variable {host : Host} {sources without : Sources} {first second : List Layer} {layer : Layer}
  {document : Document}

end Settings

end KeywordHarvest
