import KeywordHarvest.Settings.Setting

/-! What a run takes from its surroundings besides files. The keys of a table come in an order that
nothing fixes, and that may be another one for each table and each run; and some texts that a run
ends with are made elsewhere. -/

namespace KeywordHarvest

/-- Where a key comes in its table, which the keys that lead to it name. Smaller comes first. -/
abbrev Rank := List String → String → Nat

structure Order where
  /-- The tables of each layer's document, by the number of the layer. -/
  layer : Nat → Rank
  /-- The table that all layers are merged into. -/
  merged : Rank
  /-- The table that the settings are read from. -/
  reading : Setting → Nat

structure Crash where
  index : Int
  length : Nat
  deriving DecidableEq

structure Host where
  order : Order
  /-- What is said of a text that is not well-formed. -/
  diagnosis : String → String
  crashReport : Crash → String

namespace Host

/-- Keys come as they are written, and reports are short. -/
def plain : Host where
  order := ⟨fun _ _ _ => 0, fun _ _ => 0, fun _ => 0⟩
  diagnosis _ := "TOML parse error"
  crashReport _ := "index out of bounds\n"

end Host

section Arranging

variable {α : Type}

def place (rank : α → Nat) (item : α) : List α → List α
  | [] => [item]
  | other :: others =>
      if rank item ≤ rank other then item :: other :: others
      else other :: place rank item others

/-- In the order of their ranks; what has the same rank stays in its order. -/
def arrange (rank : α → Nat) (items : List α) : List α := items.foldr (place rank) []

end Arranging

end KeywordHarvest
