import KeywordHarvest.FileTree.Access

/-! Paths in two trees. Where nothing or a file stands, a path can only end. So two trees that agree
everywhere else lead every path to the same place, as long as ending there is no less allowed in the
second; and what leads somewhere for making a file leads there for opening it. -/

namespace KeywordHarvest.FileTree

variable {tree changed : FileTree} {aim aim' : Aim} {place result : Place} {slash : Bool}
  {name : Path.Name} {names : List Path.Name}
  {follow follow' : Place → Path → List Path.Name → Except Fault Place}

/-- No path leads on from here. -/
def IsEnd (tree : FileTree) (place : Place) : Prop :=
  tree.at? place = none ∨ ∃ content mode, tree.at? place = some (.file content mode)

theorem IsEnd.not_isDirectory (ends : tree.IsEnd place) : tree.isDirectory place = false := by
  rcases ends with free | ⟨content, mode, file⟩
  · simp [isDirectory, free]
  · simp [isDirectory, file]

/-- A name that is looked up in the directory reached so far. -/
structure Ordinary (aim : Aim) (slash : Bool) (name : Path.Name) (names : List Path.Name) :
    Prop where
  moves : name ≠ Path.dot
  descends : name ≠ Path.dotDot
  accepted : ¬ (names = [] && aim = .creating && slash) = true
  short : ¬ 255 < name.length

theorem along_ordinary (ordinary : Ordinary aim slash name names) :
    tree.along aim slash follow place (name :: names) =
      match tree.node (name :: place) with
      | none => if names = [] then .ok (name :: place) else .error .missing
      | some .directory => tree.along aim slash follow (name :: place) names
      | some (.file _ _) =>
          if names = [] && !slash then .ok (name :: place) else .error .notDirectory
      | some (.link target) =>
          if names = [] && aim = .entry && !slash then .ok (name :: place)
          else follow place target names := by
  rw [along, if_neg ordinary.moves, if_neg ordinary.descends, if_neg ordinary.accepted]
  exact if_neg ordinary.short

theorem along_dot :
    tree.along aim slash follow place (Path.dot :: names) =
      tree.along aim slash follow place names := by
  rw [along, if_pos rfl]

theorem along_dotDot (above : tree.isDirectory place.tail = true) :
    tree.along aim slash follow place (Path.dotDot :: names) =
      tree.along aim slash follow place.tail names := by
  rw [along, if_neg (by decide), if_pos rfl, if_pos above]

theorem along_cases (found : tree.along aim slash follow place (name :: names) = .ok result) :
    (name = Path.dot ∧ tree.along aim slash follow place names = .ok result) ∨
      (name = Path.dotDot ∧ tree.isDirectory place.tail = true ∧
        tree.along aim slash follow place.tail names = .ok result) ∨
      Ordinary aim slash name names := by
  by_cases stays : name = Path.dot
  · rw [along, if_pos stays] at found
    exact .inl ⟨stays, found⟩
  by_cases climbs : name = Path.dotDot
  · rw [along, if_neg stays, if_pos climbs] at found
    by_cases above : tree.isDirectory place.tail = true
    · rw [if_pos above] at found
      exact .inr (.inl ⟨climbs, above, found⟩)
    · rw [if_neg above] at found
      cases found
  by_cases refused : (names = [] && aim = .creating && slash) = true
  · rw [along, if_neg stays, if_neg climbs, if_pos refused] at found
    cases found
  by_cases long : 255 < name.length
  · rw [along, if_neg stays, if_neg climbs, if_neg refused, if_pos long] at found
    cases found
  exact .inr (.inr ⟨stays, climbs, refused, long⟩)

theorem along_end (ordinary : Ordinary aim slash name names) (ends : tree.IsEnd (name :: place)) :
    tree.along aim slash follow place (name :: names) = .ok result ↔
      names = [] ∧ name :: place = result ∧ (tree.at? (name :: place) = none ∨ slash = false) := by
  rw [along_ordinary ordinary, ← at?_cons]
  rcases ends with free | ⟨content, mode, file⟩
  · rw [free]
    by_cases last : names = [] <;> simp [last]
  · rw [file]
    by_cases last : names = [] <;> by_cases asked : slash = true <;> simp [last, asked]

theorem resolve_eq_ok {path : Path} : tree.resolve aim path = .ok result ↔
    check path = .ok () ∧ tree.isDirectory (tree.start path) = true ∧
      tree.walk aim linkLimit path.endsInSlash (tree.start path) path.names = .ok result := by
  unfold resolve
  cases check path <;> by_cases inside : tree.isDirectory (tree.start path) = true <;>
    simp [bind, Except.bind, inside]

/-- What has to hold for names that lead to `result` in one tree to lead there in another. A file
that comes to stand at the result may be met by names that ask for a directory, but not by those
along which a file may be made. -/
structure Carries (result : Place) (aim : Aim) (tree : FileTree) (aim' : Aim)
    (changed : FileTree) : Prop where
  cwd : changed.cwd = tree.cwd
  aims : aim' = aim ∨ aim = .creating ∧ aim' = .opening
  nodes : ∀ place, changed.at? place = tree.at? place ∨
    tree.IsEnd place ∧ changed.IsEnd place ∧
      (aim = .creating ∨ result ≠ place ∨ tree.at? place ≠ none)

namespace Carries

theorem isDirectory (carries : Carries result aim tree aim' changed) (place : Place) :
    changed.isDirectory place = tree.isDirectory place := by
  rcases carries.nodes place with same | ⟨before, after, _⟩
  · rw [FileTree.isDirectory, FileTree.isDirectory, same]
  · rw [before.not_isDirectory, after.not_isDirectory]

theorem ordinary (carries : Carries result aim tree aim' changed)
    (ordinary : Ordinary aim slash name names) : Ordinary aim' slash name names := by
  refine ⟨ordinary.moves, ordinary.descends, ?_, ordinary.short⟩
  rcases carries.aims with same | ⟨_, opens⟩
  · rw [same]
    exact ordinary.accepted
  · simp [opens]

theorem stands (carries : Carries result aim tree aim' changed) :
    (names = [] && aim' = .entry && !slash) = (names = [] && aim = .entry && !slash) := by
  rcases carries.aims with same | ⟨creates, opens⟩
  · rw [same]
  · simp [creates, opens]

theorem along_end (carries : Carries result aim tree aim' changed)
    (before : tree.IsEnd (name :: place)) (after : changed.IsEnd (name :: place))
    (allowed : aim = .creating ∨ result ≠ name :: place ∨ tree.at? (name :: place) ≠ none)
    (ordinary : Ordinary aim slash name names)
    (found : tree.along aim slash follow place (name :: names) = .ok result) :
    changed.along aim' slash follow' place (name :: names) = .ok result := by
  obtain ⟨last, here, opens⟩ := (FileTree.along_end ordinary before).mp found
  refine (FileTree.along_end (carries.ordinary ordinary) after).mpr ⟨last, here, .inr ?_⟩
  rcases allowed with creates | apart | taken
  · simpa [last, creates] using ordinary.accepted
  · exact absurd here.symm apart
  · exact opens.resolve_left taken

theorem along (carries : Carries result aim tree aim' changed)
    (follows : ∀ place path names, follow place path names = .ok result →
      follow' place path names = .ok result)
    (found : tree.along aim slash follow place names = .ok result) :
    changed.along aim' slash follow' place names = .ok result := by
  induction names generalizing place with
  | nil => exact found
  | cons name names ih =>
      obtain ⟨rfl, stayed⟩ | ⟨rfl, above, climbed⟩ | ordinary := along_cases found
      · rw [along_dot]
        exact ih stayed
      · rw [along_dotDot (by rw [carries.isDirectory, above])]
        exact ih climbed
      · rcases carries.nodes (name :: place) with same | ⟨before, after, allowed⟩
        · rw [along_ordinary ordinary] at found
          rw [at?_cons, at?_cons] at same
          rw [along_ordinary (carries.ordinary ordinary), same]
          cases entry : tree.node (name :: place) with
          | none => simpa only [entry] using found
          | some node =>
              rw [entry] at found
              cases node with
              | directory => exact ih found
              | file content mode => exact found
              | link path =>
                  dsimp only at found ⊢
                  rw [carries.stands]
                  by_cases stands : (names = [] && aim = .entry && !slash) = true
                  · rw [if_pos stands] at found ⊢
                    exact found
                  · rw [if_neg stands] at found ⊢
                    exact follows _ _ _ found
        · exact carries.along_end before after allowed ordinary found

theorem walk {links : Nat} (carries : Carries result aim tree aim' changed)
    (found : tree.walk aim links slash place names = .ok result) :
    changed.walk aim' links slash place names = .ok result := by
  induction links generalizing slash place names with
  | zero => exact carries.along (fun _ _ _ followed => followed) found
  | succ links ih => exact carries.along (fun _ _ _ followed => ih followed) found

theorem resolve {path : Path} (carries : Carries result aim tree aim' changed)
    (found : tree.resolve aim path = .ok result) : changed.resolve aim' path = .ok result := by
  obtain ⟨checked, inside, walked⟩ := resolve_eq_ok.mp found
  have starts : changed.start path = tree.start path := by rw [start, start, carries.cwd]
  refine resolve_eq_ok.mpr ⟨checked, ?_, ?_⟩
  · rw [starts, carries.isDirectory, inside]
  · rw [starts]
    exact carries.walk walked

end Carries

theorem resolve_opening {path : Path} (found : tree.resolve .creating path = .ok place) :
    tree.resolve .opening path = .ok place :=
  Carries.resolve ⟨rfl, .inr ⟨rfl, rfl⟩, fun _ => .inl rfl⟩ found

end KeywordHarvest.FileTree
