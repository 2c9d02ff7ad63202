import KeywordHarvest.Proofs.FileTree.Filling
import KeywordHarvest.Proofs.Result

/-! One write beside another, and beside a read. A write changes where no path leads that led to
something before, and is read back by its own path. Writes to different files can be made in either
order, since neither changes where the path of the other leads, or the mode of its file. -/

namespace KeywordHarvest.FileTree

variable {tree changed after : FileTree} {place target target' source : Place}
  {content content' old : Bytes} {mode mode' : Nat} {path path' other : Path}

def SameFile (tree : FileTree) (first second : Path) : Prop :=
  ∃ place, tree.resolve .opening first = .ok place ∧ tree.resolve .opening second = .ok place

theorem ne_of_not_sameFile {first second : Path} (apart : ¬ tree.SameFile first second)
    (found : tree.resolve .opening first = .ok place)
    (found' : tree.resolve .opening second = .ok target) : place ≠ target := by
  rintro rfl
  exact apart ⟨place, found, found'⟩

/-- The content that a path reads as, whatever is at fault where there is none. -/
def file? (tree : FileTree) (path : Path) : Option Bytes := (tree.read path).toOption

theorem file?_eq_some : tree.file? path = some content ↔ tree.read path = .ok content :=
  toOption_eq_some

/-- A write that succeeds, with the file that it puts the content into and the mode of that file. -/
structure Stores (tree : FileTree) (path : Path) (content : Bytes) (target : Place) (mode : Nat)
    (changed : FileTree) : Prop where
  leads : tree.resolve .creating path = .ok target
  fits : tree.modeAt? target = some mode
  stored : changed = tree.set target (.file content mode)

theorem write_eq_ok_iff_stores : tree.write path content = .ok changed ↔
    ∃ target mode, Stores tree path content target mode changed := by
  refine write_eq_ok.trans (exists_congr fun target => exists_congr fun mode => ?_)
  exact ⟨fun ⟨leads, fits, stored⟩ => ⟨leads, fits, stored⟩,
    fun ⟨leads, fits, stored⟩ => ⟨leads, fits, stored⟩⟩

namespace Stores

theorem at?_self (stores : Stores tree path content target mode changed) :
    changed.at? target = some (.file content mode) := by
  rw [stores.stored, at?_set_self stores.fits]

theorem at?_of_ne (stores : Stores tree path content target mode changed)
    (apart : place ≠ target) : changed.at? place = tree.at? place := by
  rw [stores.stored, at?_set_of_ne tree _ apart]

theorem taken (stores : Stores tree path content target mode changed)
    (taken : tree.at? place ≠ none) : changed.at? place ≠ none := by
  by_cases here : place = target
  · rw [here, stores.at?_self]
    exact Option.some_ne_none _
  · rw [stores.at?_of_ne here]
    exact taken

theorem creating (stores : Stores tree path content target mode changed)
    (found : tree.resolve .creating other = .ok place) :
    changed.resolve .creating other = .ok place := by
  rw [stores.stored]
  exact resolve_set stores.fits (.inl rfl) found

theorem opening (stores : Stores tree path content target mode changed)
    (found : tree.resolve .opening other = .ok place) (taken : tree.at? place ≠ none) :
    changed.resolve .opening other = .ok place := by
  rw [stores.stored]
  refine resolve_set stores.fits (.inr ?_) found
  by_cases here : place = target
  · exact .inr (here ▸ taken)
  · exact .inl here

theorem of_changed {aim : Aim} (stores : Stores tree path content target mode changed)
    (found : changed.resolve aim other = .ok place) : tree.resolve aim other = .ok place := by
  rw [stores.stored] at found
  exact resolve_of_set stores.fits found

theorem opens (stores : Stores tree path content target mode changed) :
    changed.resolve .opening path = .ok target :=
  resolve_opening (stores.creating stores.leads)

theorem read_self (stores : Stores tree path content target mode changed) :
    changed.read path = .ok content :=
  read_eq_ok.mpr ⟨target, mode, stores.opens, stores.at?_self⟩

theorem read_before (stores : Stores tree path content target mode changed)
    (found : changed.resolve .opening other = .ok source) (apart : source ≠ target)
    (now : changed.read other = .ok old) : tree.read other = .ok old := by
  obtain ⟨place, mode', found', file⟩ := read_eq_ok.mp now
  cases found.symm.trans found'
  rw [stores.at?_of_ne apart] at file
  exact read_eq_ok.mpr ⟨source, mode', stores.of_changed found, file⟩

theorem read_after (stores : Stores tree path content target mode changed)
    (found : tree.resolve .opening other = .ok source) (apart : source ≠ target)
    (before : tree.read other = .ok old) : changed.read other = .ok old := by
  rw [stores.stored]
  exact read_set_of_ne stores.fits found apart before

theorem earlier (stores : Stores tree path content target mode changed)
    (later : Stores changed path' content' target' mode' after) (apart : target ≠ target') :
    Stores tree path' content' target' mode' (tree.set target' (.file content' mode')) := by
  refine ⟨stores.of_changed later.leads, ?_, rfl⟩
  have fits := later.fits
  rw [modeAt?, stores.at?_of_ne apart.symm] at fits
  exact fits

theorem postponed (stores : Stores tree path content target mode changed)
    (later : Stores changed path' content' target' mode' after) (apart : target ≠ target') :
    Stores (tree.set target' (.file content' mode')) path content target mode after := by
  have sooner := stores.earlier later apart
  refine ⟨sooner.creating stores.leads, ?_, ?_⟩
  · rw [modeAt?, sooner.at?_of_ne apart]
    exact stores.fits
  · rw [later.stored, stores.stored, set_comm tree _ _ apart]

end Stores

end KeywordHarvest.FileTree
