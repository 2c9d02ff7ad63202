import KeywordHarvest.Proofs.Settings.FirstFault
import KeywordHarvest.Proofs.Settings.Reading

/-! Loading in any order of keys. Where all documents are tidy, what is loaded depends on the
changes that they make to each setting, one document after another, and not on the order of their
keys; only which one of several wrong values is reported depends on the order in which settings are
met. -/

namespace KeywordHarvest

variable {tree : FileTree}

def Sources.IsTidy (sources : Sources) (tree : FileTree) : Prop :=
  ∀ layer ∈ sources.layers, ∀ document, layer.document? tree = some document → document.IsTidy

namespace Settings

open Layer (Document Reaches)

variable {sources other : Sources} {layer : Layer} {documents others : List Document}

/-- Two runs that load alike in whatever order keys come: the same settings, and also the same fault
where settings are met in the same order. -/
structure Alike (tree : FileTree) (sources other : Sources) : Prop where
  same : ∀ host again : Host, again.diagnosis = host.diagnosis →
    again.order.reading = host.order.reading →
    (load again other).run tree = (load host sources).run tree
  loaded : ∀ (host again : Host) (settings : Settings),
    ((load host sources).run tree).1 = .ok settings ↔
      ((load again other).run tree).1 = .ok settings

theorem Alike.trans {third : Sources} (first : Alike tree sources other)
    (second : Alike tree other third) : Alike tree sources third where
  same host again diagnosed reading :=
    (second.same host again diagnosed reading).trans (first.same host host rfl rfl)
  loaded host again settings :=
    (first.loaded host host settings).trans (second.loaded host again settings)

end Settings

end KeywordHarvest
