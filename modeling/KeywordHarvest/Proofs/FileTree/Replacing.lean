import KeywordHarvest.Proofs.FileTree.Separate

/-! Which file a path means, said without the limits and the order of a lookup, and what a write
does there. Names mean at most one place, and one that is no directory stands in a directory, so a
write that succeeds replaces the content of one file, or makes it where its directory is. -/

namespace KeywordHarvest.FileTree

variable {tree changed : FileTree} {aim : Aim} {slash : Bool} {place result other : Place}
  {name : Path.Name} {names : List Path.Name} {path : Path} {content : Bytes} {mode : Nat}

inductive Leads (tree : FileTree) : Place → List Path.Name → Place → Prop
  | here {place : Place} : Leads tree place [] place
  | stay {place result : Place} {name : Path.Name} {names : List Path.Name}
      (stays : name = Path.dot) (rest : Leads tree place names result) :
      Leads tree place (name :: names) result
  | climb {place result : Place} {name : Path.Name} {names : List Path.Name}
      (climbs : name = Path.dotDot) (above : tree.isDirectory place.tail = true)
      (rest : Leads tree place.tail names result) : Leads tree place (name :: names) result
  | enter {place result : Place} {name : Path.Name} {names : List Path.Name}
      (moves : name ≠ Path.dot) (descends : name ≠ Path.dotDot)
      (directory : tree.at? (name :: place) = some .directory)
      (rest : Leads tree (name :: place) names result) : Leads tree place (name :: names) result
  | follow {place result : Place} {name : Path.Name} {names : List Path.Name} {target : Path}
      (moves : name ≠ Path.dot) (descends : name ≠ Path.dotDot)
      (link : tree.at? (name :: place) = some (.link target))
      (rest : Leads tree (if target.isAbsolute then [] else place) (target.names ++ names) result) :
      Leads tree place (name :: names) result
  | last {place : Place} {name : Path.Name}
      (moves : name ≠ Path.dot) (descends : name ≠ Path.dotDot)
      (ends : tree.IsEnd (name :: place)) : Leads tree place [name] (name :: place)

namespace Leads

theorem unique (leads : tree.Leads place names result) (again : tree.Leads place names other) :
    other = result := by
  have distinct : Path.dot ≠ Path.dotDot := by decide
  induction leads with
  | here => cases again; rfl
  | stay stays rest ih => cases again <;> grind
  | climb climbs above rest ih => cases again <;> grind
  | enter moves descends directory rest ih => cases again <;> grind [IsEnd]
  | follow moves descends link rest ih => cases again <;> grind [IsEnd]
  | last moves descends ends => cases again <;> grind [IsEnd]

theorem isDirectory (leads : tree.Leads place names result)
    (inside : tree.isDirectory place = true) :
    tree.isDirectory result = true ∨ tree.isDirectory result.tail = true := by
  induction leads with
  | here => exact .inl inside
  | stay _ _ ih => exact ih inside
  | climb _ above _ ih => exact ih above
  | enter _ _ directory _ ih => exact ih (decide_eq_true directory)
  | follow _ _ _ _ ih =>
      apply ih
      split
      · rfl
      · exact inside
  | last _ _ _ => exact .inr inside

end Leads

theorem leads_of_along {follow : Place → Path → List Path.Name → Except Fault Place}
    (whole : aim ≠ .entry)
    (follows : ∀ place target names, follow place target names = .ok result →
      tree.Leads (if target.isAbsolute then [] else place) (target.names ++ names) result)
    (found : tree.along aim slash follow place names = .ok result) :
    tree.Leads place names result := by
  induction names generalizing place with
  | nil =>
      cases found
      exact .here
  | cons name names ih =>
      obtain ⟨stays, stayed⟩ | ⟨climbs, above, climbed⟩ | ordinary := along_cases found
      · exact .stay stays (ih stayed)
      · exact .climb climbs above (ih climbed)
      · have ended (ends : tree.IsEnd (name :: place)) :
            tree.Leads place (name :: names) result := by
          obtain ⟨rfl, rfl, _⟩ := (along_end ordinary ends).mp found
          exact .last ordinary.moves ordinary.descends ends
        cases entry : tree.at? (name :: place) with
        | none => exact ended (.inl entry)
        | some node =>
            cases node with
            | directory =>
                rw [along_ordinary ordinary, ← at?_cons, entry] at found
                exact .enter ordinary.moves ordinary.descends entry (ih found)
            | file content mode => exact ended (.inr ⟨content, mode, entry⟩)
            | link target =>
                rw [along_ordinary ordinary, ← at?_cons, entry] at found
                simp only [whole, decide_false, Bool.and_false, Bool.false_and, Bool.false_eq_true,
                  if_false] at found
                exact .follow ordinary.moves ordinary.descends entry (follows _ _ _ found)

theorem leads_of_walk {links : Nat} (whole : aim ≠ .entry)
    (found : tree.walk aim links slash place names = .ok result) :
    tree.Leads place names result := by
  induction links generalizing slash place names with
  | zero =>
      refine leads_of_along whole (fun _ _ _ followed => ?_) found
      cases followed
  | succ links ih => exact leads_of_along whole (fun _ _ _ followed => ih followed) found

structure Means (tree : FileTree) (path : Path) (place : Place) : Prop where
  inside : tree.isDirectory (tree.start path) = true
  leads : tree.Leads (tree.start path) path.names place

theorem means_of_resolve (whole : aim ≠ .entry) (found : tree.resolve aim path = .ok place) :
    tree.Means path place := by
  obtain ⟨_, inside, walked⟩ := resolve_eq_ok.mp found
  exact ⟨inside, leads_of_walk whole walked⟩

theorem Means.unique (means : tree.Means path place) (again : tree.Means path other) :
    other = place :=
  means.leads.unique again.leads

/-- The mode that a file has once it is written: a file keeps its own, and a new one is made in a
directory that is there. -/
inductive Fits (tree : FileTree) (place : Place) : Nat → Prop
  | kept {old : Bytes} {mode : Nat} (file : tree.at? place = some (.file old mode)) :
      Fits tree place mode
  | made (free : tree.at? place = none) (directory : tree.isDirectory place.tail = true) :
      Fits tree place 0o644

theorem Means.fits (means : tree.Means path place) (fits : tree.modeAt? place = some mode) :
    tree.Fits place mode := by
  rcases modeAt?_eq_some fits with ⟨free, rfl⟩ | ⟨old, file⟩
  · refine .made free ((means.leads.isDirectory means.inside).resolve_left ?_)
    simp [isDirectory, free]
  · exact .kept file

/-- One file has other content than before, the file that the path means before and after, and
nothing else in the tree is another. -/
structure Replaces (tree : FileTree) (path : Path) (place : Place) (content : Bytes) (mode : Nat)
    (changed : FileTree) : Prop where
  means : tree.Means path place
  only : ∀ other, tree.Means path other → other = place
  fits : tree.Fits place mode
  file : changed.at? place = some (.file content mode)
  others : ∀ other, other ≠ place → changed.node other = tree.node other
  cwd : changed.cwd = tree.cwd
  directories : ∀ other, changed.isDirectory other = tree.isDirectory other
  links : ∀ other target,
    changed.at? other = some (.link target) ↔ tree.at? other = some (.link target)
  still : changed.Means path place
  reads : changed.read path = .ok content

namespace Stores

theorem means (stores : Stores tree path content place mode changed) : tree.Means path place :=
  means_of_resolve (by decide) stores.leads

theorem isDirectory (stores : Stores tree path content place mode changed) (other : Place) :
    changed.isDirectory other = tree.isDirectory other := by
  by_cases here : other = place
  · rw [here, (isEnd_of_modeAt? stores.fits).not_isDirectory]
    simp [FileTree.isDirectory, stores.at?_self]
  · rw [FileTree.isDirectory, FileTree.isDirectory, stores.at?_of_ne here]

theorem isLink (stores : Stores tree path content place mode changed) (other : Place)
    (target : Path) :
    changed.at? other = some (.link target) ↔ tree.at? other = some (.link target) := by
  by_cases here : other = place
  · rw [here, stores.at?_self]
    rcases modeAt?_eq_some stores.fits with ⟨free, _⟩ | ⟨old, file⟩
    · simp [free]
    · simp [file]
  · rw [stores.at?_of_ne here]

theorem replaces (stores : Stores tree path content place mode changed) :
    Replaces tree path place content mode changed where
  means := stores.means
  only _ again := stores.means.unique again
  fits := stores.means.fits stores.fits
  file := stores.at?_self
  others other apart := by rw [stores.stored, node_set, if_neg apart]
  cwd := by rw [stores.stored, cwd_set]
  directories := stores.isDirectory
  links := stores.isLink
  still := means_of_resolve (by decide) stores.opens
  reads := stores.read_self

end Stores

end KeywordHarvest.FileTree
