import KeywordHarvest.Proofs.FileTree.Replacing
import KeywordHarvest.Proofs.Harvest.Outcome

/-! What an output does to a tree. Writing it replaces the one file that its path means, and
generating changes nothing else. Whatever fails, the tree is left alone, and a failure that is not
due to the input or the marker names the output. -/

namespace KeywordHarvest.Harvest

variable {α : Type} {settings : Settings} {tree changed : FileTree} {path : Path} {text : String}
  {value : α} {ended : Report α × FileTree}

/-- Work that ends with a value once a text stands in the file that a path means, or with a fault
for that path and no change. -/
structure WritesOne (tree : FileTree) (path : Path) (text : String) (value : α)
    (ended : Report α × FileTree) : Prop where
  stored : ∀ returned, ended.1.result = .ok returned → returned = value ∧
    ∃ place mode, tree.Replaces path place (Text.encode text) mode ended.2
  failed : ∀ fault, ended.1.result = .error fault → ended.2 = tree ∧
    ∃ cause, tree.write path (Text.encode text) = .error cause ∧ fault = .unwritable path cause

theorem writesOne_of_ok (stored : tree.write path (Text.encode text) = .ok ended.2)
    (finished : ended.1.result = .ok value) : WritesOne tree path text value ended where
  stored _ again := by
    obtain ⟨place, mode, stores⟩ := FileTree.write_eq_ok_iff_stores.mp stored
    exact ⟨Except.ok.inj (again.symm.trans finished), place, mode, stores.replaces⟩
  failed _ failed := nomatch failed.symm.trans finished

theorem writesOne_of_error {cause : FileTree.Fault}
    (unstored : tree.write path (Text.encode text) = .error cause) (same : ended.2 = tree)
    (failed : ended.1.result = .error (.unwritable path cause)) :
    WritesOne tree path text value ended where
  stored _ finished := nomatch finished.symm.trans failed
  failed _ again :=
    ⟨same, cause, unstored, Except.error.inj (again.symm.trans failed)⟩

theorem writeOutput_writesOne (tree : FileTree) (path : Path) (text : String) :
    WritesOne tree path text () ((writeOutput path text).run tree) := by
  have ran := run_writeOutput path text tree
  cases stored : tree.write path (Text.encode text) with
  | ok changed =>
      rw [stored] at ran
      rw [ran]
      exact writesOne_of_ok stored rfl
  | error cause =>
      rw [stored] at ran
      rw [ran]
      exact writesOne_of_error stored rfl rfl

theorem generate_writesOne {harvest : Harvest}
    (made : (ofContent settings (tree.read settings.input)).result = .ok harvest) :
    WritesOne tree settings.output harvest.rendered harvest ((generate settings).run tree) := by
  cases stored : tree.write settings.output (Text.encode harvest.rendered) with
  | ok changed =>
      rw [run_generate_of_stored made stored]
      exact writesOne_of_ok stored rfl
  | error cause =>
      rw [run_generate_of_unstored made stored]
      exact writesOne_of_error stored rfl rfl

/-- Generating does to a tree what writing its output does, once there is a harvest to write. -/
theorem output_is_only_change (tree : FileTree) :
    (∀ path text, WritesOne tree path text () ((writeOutput path text).run tree)) ∧
    ∀ settings : Settings,
      match ((ofInput settings).run tree).1.result with
      | .ok harvest =>
          WritesOne tree settings.output harvest.rendered harvest ((generate settings).run tree)
      | .error fault => ((generate settings).run tree).1.result = .error fault ∧
          ((generate settings).run tree).2 = tree := by
  refine ⟨writeOutput_writesOne tree, fun settings => ?_⟩
  rw [run_ofInput]
  cases made : (ofContent settings (tree.read settings.input)).result with
  | ok harvest => exact generate_writesOne made
  | error fault =>
      rw [run_generate_of_unmade made]
      exact ⟨made, rfl⟩

/-- Two links, the first through a directory and out of it again, the second to a file that is not
there yet. -/
def danglingTree : FileTree :=
  (((FileTree.bare []).set [Text.encode "d"] .directory).set
    [Text.encode "o"] (.link (Text.encode "d/../p"))).set
    [Text.encode "p"] (.link (Text.encode "./d//new"))

theorem output_is_only_change_dangling :
    ((writeOutput (Text.encode "o") "x").run danglingTree).1.result = .ok () ∧
      danglingTree.Replaces (Text.encode "o") [Text.encode "new", Text.encode "d"]
        (Text.encode "x") 0o644 ((writeOutput (Text.encode "o") "x").run danglingTree).2 := by
  have leads : danglingTree.resolve .creating (Text.encode "o") =
      .ok [Text.encode "new", Text.encode "d"] := rfl
  have free : danglingTree.at? [Text.encode "new", Text.encode "d"] = none := by decide +kernel
  have stored : danglingTree.write (Text.encode "o") (Text.encode "x") = .ok _ :=
    FileTree.write_eq_ok.mpr ⟨_, FileTree.newMode, leads, by rw [FileTree.modeAt?, free], rfl⟩
  have finished : ((writeOutput (Text.encode "o") "x").run danglingTree).1.result = .ok () := by
    rw [run_writeOutput, stored]
    rfl
  obtain ⟨_, place, mode, replaces⟩ :=
    ((output_is_only_change danglingTree).1 (Text.encode "o") "x").stored () finished
  have here := replaces.only _ (FileTree.means_of_resolve (by decide) leads)
  subst here
  refine ⟨finished, ?_⟩
  cases replaces.fits with
  | kept file => cases free.symm.trans file
  | made _ _ => exact replaces

end KeywordHarvest.Harvest
