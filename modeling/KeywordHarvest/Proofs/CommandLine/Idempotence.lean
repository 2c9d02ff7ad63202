import KeywordHarvest.Proofs.CommandLine.Printing
import KeywordHarvest.Proofs.Harvest.Commuting
import KeywordHarvest.Proofs.Settings.Undisturbed

/-! The same command once more. Where a run has written a file that it does not read, under none of
the names it looks for, the next run finds the same settings and the same input, ends in the same
way, and puts into the file what is there already. -/

namespace KeywordHarvest

open Harvest (Generates)

variable {settings : Settings} {tree after : FileTree} {harvest : Harvest}

namespace CommandLine

variable {asked : Request} {outcome : Outcome} {host again : Host}

/-- What the output path leads to is read by no part of a run: not as its input, and under none of
the names that its configuration is looked for. -/
structure Request.Unread (asked : Request) (settings : Settings) (tree : FileTree) : Prop where
  input : ¬ tree.SameFile settings.output settings.input
  project : ∀ name ∈ ["kwgen.toml", "kwgen.toml.toml"],
    ¬ tree.SameFile settings.output (Text.encode name)
  config : ∀ path, asked.overrides.configFile = some path → ∀ name ∈ Layer.lookups tree.cwd path,
    ¬ tree.SameFile settings.output name

theorem exists_of_lookups_localFile {cwd : Place} {name : Path}
    (looked : name ∈ Layer.lookups cwd Layer.localFile) :
    ∃ text ∈ ["kwgen.toml", "kwgen.toml.toml"], Text.encode text = name := by
  have retried : Layer.alternative? cwd Layer.localFile =
      some (Text.encode "kwgen.toml.toml") := rfl
  have known := (List.mem_filter.mp looked).1
  rw [retried] at known
  exact List.mem_map.mp known

theorem Request.Unread.layers (unread : asked.Unread settings after) :
    ∀ layer ∈ (Sources.mk true [] asked.overrides).layers,
      ∀ name ∈ Layer.lookups after.cwd layer.path, ¬ after.SameFile settings.output name := by
  intro layer member name looked
  rcases List.mem_append.mp member with project | config
  · cases List.mem_singleton.mp project
    obtain ⟨text, known, rfl⟩ := exists_of_lookups_localFile looked
    exact unread.project text known
  · obtain ⟨path, named, rfl⟩ := List.mem_map.mp config
    exact unread.config path (Option.mem_toList.mp named) name looked

end CommandLine

end KeywordHarvest
