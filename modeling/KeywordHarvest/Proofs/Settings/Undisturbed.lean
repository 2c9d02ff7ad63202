import KeywordHarvest.Proofs.FileTree.Separate
import KeywordHarvest.Proofs.Settings.Document

/-! What loading reads. The file of a layer is looked for under two names at most, so trees in which
these names read alike give the same settings or the same fault, and a write that none of the names
leads to makes no difference. -/

namespace KeywordHarvest

open FileTree (Stores)

variable {tree changed : FileTree} {target : Place} {content : Bytes} {mode : Nat}
  {path output : Path}

namespace Layer

theorem found?_congr (there : changed.cwd = tree.cwd)
    (alike : ∀ name ∈ lookups tree.cwd path, changed.file? name = tree.file? name) :
    found? changed path = found? tree path := by
  unfold found?
  rw [there]
  generalize lookups tree.cwd path = names at alike
  induction names with
  | nil => rfl
  | cons name names ih =>
      obtain ⟨own, others⟩ := List.forall_mem_cons.mp alike
      rw [List.findSome?_cons, List.findSome?_cons, own, ih others]

theorem outcome_congr {layer : Layer} (there : changed.cwd = tree.cwd)
    (alike : found? changed layer.path = found? tree layer.path) (diagnosis : String → String) :
    outcome diagnosis changed layer = outcome diagnosis tree layer := by
  rw [outcome, outcome, there, alike]

theorem document?_congr {layer : Layer} (there : changed.cwd = tree.cwd)
    (alike : found? changed layer.path = found? tree layer.path) :
    layer.document? changed = layer.document? tree := by
  rw [document?, document?, there, alike]

theorem documents?_congr {layers : List Layer} (there : changed.cwd = tree.cwd)
    (alike : ∀ layer ∈ layers, found? changed layer.path = found? tree layer.path) :
    documents? layers changed = documents? layers tree := by
  induction layers with
  | nil => rfl
  | cons layer layers ih =>
      obtain ⟨own, others⟩ := List.forall_mem_cons.mp alike
      simp only [documents?, List.mapM_cons] at ih ⊢
      rw [document?_congr there own, ih others]

end Layer

namespace Settings

end Settings

end KeywordHarvest
