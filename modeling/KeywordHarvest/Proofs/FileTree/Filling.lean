import KeywordHarvest.Proofs.FileTree.Leading

/-! Putting content where a file stands or may be made. Such a place is never a directory or a link,
so no path leads on through it: a path that leads elsewhere leads there as before, and so does a
path that leads to a file which was there already, or along which a file may be made. -/

namespace KeywordHarvest.FileTree

/-- The mode of the file at a place once content is put there. -/
def modeAt? (tree : FileTree) (place : Place) : Option Nat :=
  match tree.at? place with
  | none => some newMode
  | some (.file _ mode) => some mode
  | some _ => none

variable {tree changed : FileTree} {place target result : Place} {content : Bytes} {mode : Nat}

theorem modeAt?_eq_some (fits : tree.modeAt? place = some mode) :
    tree.at? place = none ∧ mode = newMode ∨ ∃ old, tree.at? place = some (.file old mode) := by
  unfold modeAt? at fits
  split at fits
  case h_1 free => exact .inl ⟨free, (Option.some.inj fits).symm⟩
  case h_2 old _ file =>
    cases Option.some.inj fits
    exact .inr ⟨old, file⟩
  case h_3 => cases fits

theorem ne_root_of_modeAt? (fits : tree.modeAt? place = some mode) : place ≠ [] := by
  rintro rfl
  cases fits

theorem at?_eq_node (apart : place ≠ []) : tree.at? place = tree.node place := by
  cases place with
  | nil => exact absurd rfl apart
  | cons name above => rfl

theorem putAt_eq_ok : tree.putAt content place = .ok changed ↔
    ∃ mode, tree.modeAt? place = some mode ∧ changed = tree.set place (.file content mode) := by
  unfold putAt modeAt?
  cases tree.at? place with
  | none => simp [eq_comm]
  | some node => cases node <;> simp [eq_comm]

/-- Writing succeeds exactly where the path leads to a file, or to a place where one may be made,
and then puts the content there and nothing else. -/
theorem write_eq_ok {path : Path} : tree.write path content = .ok changed ↔
    ∃ place mode, tree.resolve .creating path = .ok place ∧ tree.modeAt? place = some mode ∧
      changed = tree.set place (.file content mode) := by
  unfold write
  cases found : tree.resolve .creating path with
  | error fault => simp [bind, Except.bind]
  | ok place => simp [bind, Except.bind, putAt_eq_ok]

theorem node_set_self (tree : FileTree) (place : Place) (node : Node) :
    (tree.set place node).node place = some node := by
  simp [node_set]

theorem at?_set_self (fits : tree.modeAt? target = some mode) (node : Node) :
    (tree.set target node).at? target = some node := by
  rw [at?_eq_node (ne_root_of_modeAt? fits), node_set_self]

theorem isEnd_of_modeAt? (fits : tree.modeAt? place = some mode) : tree.IsEnd place := by
  rcases modeAt?_eq_some fits with ⟨free, _⟩ | ⟨old, file⟩
  · exact .inl free
  · exact .inr ⟨old, mode, file⟩

theorem isEnd_set_self (fits : tree.modeAt? place = some mode) :
    (tree.set place (.file content mode)).IsEnd place :=
  .inr ⟨content, mode, at?_set_self fits _⟩

/-- A path that leads somewhere still leads there after content was put at a place. What stands
there must be another place, or have been a file before, unless a file may be made on the way. -/
theorem resolve_set {aim : Aim} {path : Path} (fits : tree.modeAt? target = some mode)
    (reached : aim = .creating ∨ result ≠ target ∨ tree.at? target ≠ none)
    (found : tree.resolve aim path = .ok result) :
    (tree.set target (.file content mode)).resolve aim path = .ok result := by
  have carries : Carries result aim tree aim (tree.set target (.file content mode)) := by
    refine ⟨rfl, .inl rfl, fun place => ?_⟩
    by_cases here : place = target
    · subst here
      exact .inr ⟨isEnd_of_modeAt? fits, isEnd_set_self fits, reached⟩
    · exact .inl (at?_set_of_ne tree _ here)
  exact carries.resolve found

theorem resolve_of_set {aim : Aim} {path : Path} (fits : tree.modeAt? target = some mode)
    (found : (tree.set target (.file content mode)).resolve aim path = .ok result) :
    tree.resolve aim path = .ok result := by
  have carries : Carries result aim (tree.set target (.file content mode)) aim tree := by
    refine ⟨rfl, .inl rfl, fun place => ?_⟩
    by_cases here : place = target
    · subst here
      refine .inr ⟨isEnd_set_self fits, isEnd_of_modeAt? fits, .inr (.inr ?_)⟩
      rw [at?_set_self fits]
      exact Option.some_ne_none _
    · exact .inl (at?_set_of_ne tree _ here).symm
  exact carries.resolve found

theorem read_eq_ok {path : Path} : tree.read path = .ok content ↔
    ∃ place mode, tree.resolve .opening path = .ok place ∧
      tree.at? place = some (.file content mode) := by
  unfold read contentAt
  cases tree.resolve .opening path with
  | error fault => simp [bind, Except.bind]
  | ok place =>
      cases entry : tree.at? place with
      | none => simp [bind, Except.bind, entry]
      | some node => cases node <;> simp [bind, Except.bind, entry]

theorem read_set_of_ne {path : Path} {old : Bytes} (fits : tree.modeAt? target = some mode)
    (found : tree.resolve .opening path = .ok place) (apart : place ≠ target)
    (before : tree.read path = .ok old) :
    (tree.set target (.file content mode)).read path = .ok old := by
  obtain ⟨place', mode', found', file⟩ := read_eq_ok.mp before
  rw [found] at found'
  cases found'
  refine read_eq_ok.mpr ⟨place, mode', resolve_set fits (.inr (.inl apart)) found, ?_⟩
  rw [at?_set_of_ne tree _ apart, file]

theorem read_set_self {path : Path} (fits : tree.modeAt? target = some mode)
    (found : tree.resolve .opening path = .ok target) (taken : tree.at? target ≠ none) :
    (tree.set target (.file content mode)).read path = .ok content :=
  read_eq_ok.mpr ⟨target, mode, resolve_set fits (.inr (.inr taken)) found, at?_set_self fits _⟩

theorem write_set {path : Path} {new : Bytes} (fits : tree.modeAt? target = some mode)
    (found : tree.resolve .creating path = .ok target) :
    (tree.set target (.file content mode)).write path new =
      .ok (tree.set target (.file new mode)) := by
  refine write_eq_ok.mpr ⟨target, mode, resolve_set fits (.inl rfl) found, ?_, ?_⟩
  · rw [modeAt?, at?_set_self fits]
  · rw [set_set]

end KeywordHarvest.FileTree
