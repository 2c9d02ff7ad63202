import KeywordHarvest.Proofs.FileTree.Filling
import KeywordHarvest.Proofs.Harvest.Outcome
import KeywordHarvest.Proofs.Listing.Rescan
import KeywordHarvest.Session

/-! Generating again and again with the same settings. A run that stores what is stored already ends
every change. After one run that is so if the output is not the input; otherwise the second run
harvests the list that the first one wrote, and after it that is so, because a list gives the same
keywords whatever is listed in it. -/

namespace KeywordHarvest.Harvest

variable {settings : Settings} {tree changed : FileTree} {harvest first : Harvest}

def treeAfter (settings : Settings) (tree : FileTree) : Nat → FileTree
  | 0 => tree
  | runs + 1 => ((generate settings).run (treeAfter settings tree runs)).2

def resultAfter (settings : Settings) (tree : FileTree) (runs : Nat) : Except Fault Harvest :=
  ((generate settings).run (treeAfter settings tree runs)).1.result

theorem treeAfter_succ (settings : Settings) (tree : FileTree) (runs : Nat) :
    treeAfter settings tree (runs + 1) =
      treeAfter settings ((generate settings).run tree).2 runs := by
  induction runs with
  | zero => rfl
  | succ runs ih =>
      rw [treeAfter, ih]
      rfl

theorem resultAfter_succ (settings : Settings) (tree : FileTree) (runs : Nat) :
    resultAfter settings tree (runs + 1) =
      resultAfter settings ((generate settings).run tree).2 runs := by
  rw [resultAfter, treeAfter_succ]
  rfl

/-- A run that succeeds and leaves the tree as it is. -/
def Settled (settings : Settings) (tree : FileTree) (harvest : Harvest) : Prop :=
  (ofContent settings (tree.read settings.input)).result = .ok harvest ∧
    tree.write settings.output (Text.encode harvest.rendered) = .ok tree

theorem Settled.after (settled : Settled settings tree harvest) (runs : Nat) :
    resultAfter settings tree runs = .ok harvest ∧ treeAfter settings tree runs = tree := by
  obtain ⟨again, same⟩ := generate_eq_ok.mpr settled
  induction runs with
  | zero => exact ⟨again, rfl⟩
  | succ runs ih =>
      rw [resultAfter_succ, treeAfter_succ, same]
      exact ih

theorem rerun_of_ne {source target : Place} {mode : Nat}
    (succeeds : resultAfter settings tree 0 = .ok harvest)
    (made : (ofContent settings (tree.read settings.input)).result = .ok harvest)
    (opened : tree.resolve .opening settings.input = .ok source)
    (created : tree.resolve .creating settings.output = .ok target)
    (fits : tree.modeAt? target = some mode) (apart : source ≠ target)
    (stored : treeAfter settings tree 1 =
      tree.set target (.file (Text.encode harvest.rendered) mode)) (runs : Nat) :
    resultAfter settings tree runs = .ok harvest ∧
      treeAfter settings tree (runs + 1) = treeAfter settings tree 1 := by
  have settled : Settled settings (treeAfter settings tree 1) harvest := by
    rw [stored]
    constructor
    · obtain ⟨text, marker, decoded, _⟩ := ofContent_eq_ok.mp made
      obtain ⟨bytes, present, _⟩ := textOf_eq_ok.mp decoded
      rw [FileTree.read_set_of_ne fits opened apart present, ← present]
      exact made
    · exact FileTree.write_set fits created
  constructor
  · cases runs with
    | zero => exact succeeds
    | succ runs =>
        rw [resultAfter_succ]
        exact (settled.after runs).1
  · rw [treeAfter_succ]
    exact (settled.after runs).2

theorem rerun_of_eq {target : Place} {mode : Nat} {marker : Marker} {text : String}
    (accepted : Marker.ofText settings.marker = .ok marker)
    (opened : tree.resolve .opening settings.input = .ok target)
    (created : tree.resolve .creating settings.output = .ok target)
    (fits : tree.modeAt? target = some mode) (taken : tree.at? target ≠ none)
    (stored : treeAfter settings tree 1 = tree.set target
      (.file (Text.encode (ofMarker settings.listing text marker).rendered) mode)) :
    ∃ second : Harvest, second.keywords = settings.listing.declared marker ∧
      ∀ runs, resultAfter settings tree (runs + 1) = .ok second ∧
        treeAfter settings tree (runs + 2) = treeAfter settings tree 2 := by
  have declares (other : String) : marker.keywords (ofMarker settings.listing other marker).rendered =
      settings.listing.declared marker := Listing.keywords_write _ _ _ _
  -- The second run harvests the list of the first one, the third run that of the second. Both find
  -- what is declared, so the second list is stored already.
  let second := ofMarker settings.listing (ofMarker settings.listing text marker).rendered marker
  have own : second.keywords = settings.listing.declared marker := declares text
  have unchanging : ofMarker settings.listing second.rendered marker = second := by
    simp only [second, ofMarker] at declares ⊢
    rw [declares, declares]
  have again : resultAfter settings tree 1 = .ok second ∧ treeAfter settings tree 2 =
      tree.set target (.file (Text.encode second.rendered) mode) := by
    refine generate_eq_ok.mpr ⟨?_, ?_⟩
    · rw [stored, FileTree.read_set_self fits opened taken]
      exact ofContent_encode accepted
    · rw [stored]
      exact FileTree.write_set fits created
  have settled : Settled settings (treeAfter settings tree 2) second := by
    rw [again.2]
    constructor
    · rw [FileTree.read_set_self fits opened taken, ofContent_encode accepted, unchanging]
    · exact FileTree.write_set fits created
  refine ⟨second, own, fun runs => ⟨?_, ?_⟩⟩
  · cases runs with
    | zero => exact again.1
    | succ runs =>
        rw [resultAfter_succ, resultAfter_succ]
        exact (settled.after runs).1
  · rw [treeAfter_succ, treeAfter_succ]
    exact (settled.after runs).2

theorem generate_reaches_fixed_point
    (succeeds : ((generate settings).run tree).1.result = .ok first) :
    (∀ runs, ∃ harvest, resultAfter settings tree runs = .ok harvest) ∧
    ∃ source target, tree.resolve .opening settings.input = .ok source ∧
      tree.resolve .creating settings.output = .ok target ∧
      (source ≠ target → ∀ runs, resultAfter settings tree runs = .ok first ∧
        treeAfter settings tree (runs + 1) = treeAfter settings tree 1) ∧
      (source = target → ∃ second : Harvest,
        (∀ runs, resultAfter settings tree (runs + 1) = .ok second ∧
          treeAfter settings tree (runs + 2) = treeAfter settings tree 2) ∧
        match settings.listing.format with
        | .json => second.keywords = []
        | .typeScript => extract settings.marker ("export const " ++ settings.listing.name) =
            .ok second.keywords) := by
  obtain ⟨made, wrote⟩ := generate_eq_ok.mp ⟨succeeds, rfl⟩
  obtain ⟨text, marker, decoded, accepted, rfl⟩ := ofContent_eq_ok.mp made
  obtain ⟨bytes, present, _⟩ := textOf_eq_ok.mp decoded
  obtain ⟨source, _, opened, file⟩ := FileTree.read_eq_ok.mp present
  obtain ⟨target, mode, created, fits, stored⟩ := FileTree.write_eq_ok.mp wrote
  by_cases same : source = target
  · subst same
    have taken : tree.at? source ≠ none := by rw [file]; exact Option.some_ne_none _
    obtain ⟨second, own, later⟩ := rerun_of_eq accepted opened created fits taken stored
    refine ⟨?_, source, source, opened, created, fun apart => absurd rfl apart,
      fun _ => ⟨second, later, ?_⟩⟩
    · intro runs
      cases runs with
      | zero => exact ⟨_, succeeds⟩
      | succ runs => exact ⟨second, (later runs).1⟩
    · rw [own, Listing.declared, extract, accepted]
      cases settings.listing.format <;> rfl
  · have later := rerun_of_ne succeeds made opened created fits same stored
    exact ⟨fun runs => ⟨_, (later runs).1⟩, source, target, opened, created, fun _ => later,
      fun equal => absurd equal same⟩

def linkedTree : FileTree :=
  ((FileTree.bare []).set [Text.encode "g"] (.file (Text.encode "kw(\"b\")") 0o600)).set
    [Text.encode "o"] (.link (Text.encode "g"))

/-- The name of the list is a call itself. -/
def linkedSettings : Settings :=
  ⟨Text.encode "g", Text.encode "o", "kw", .typeScript, "kw(\"a\")"⟩

def linkedHarvest : Harvest :=
  ofMarker linkedSettings.listing "kw(\"b\")" Marker.standard

theorem generate_reaches_fixed_point_linked :
    ((generate linkedSettings).run linkedTree).1.result = .ok linkedHarvest ∧
      ∃ second : Harvest, second.keywords = ["a"] ∧
        ∀ runs, resultAfter linkedSettings linkedTree (runs + 1) = .ok second := by
  have made : (ofContent linkedSettings (linkedTree.read linkedSettings.input)).result =
      .ok linkedHarvest :=
    ofContent_encode (Marker.ofText_text Marker.standard)
  have fits : linkedTree.modeAt? [Text.encode "g"] = some 0o600 := rfl
  have wrote : linkedTree.write linkedSettings.output (Text.encode linkedHarvest.rendered) = .ok _ :=
    FileTree.write_eq_ok.mpr ⟨[Text.encode "g"], 0o600, rfl, fits, rfl⟩
  have succeeds := (generate_eq_ok.mpr ⟨made, wrote⟩).1
  obtain ⟨_, source, target, opened, created, _, aliased⟩ := generate_reaches_fixed_point succeeds
  cases opened
  cases created
  obtain ⟨second, later, declared⟩ := aliased rfl
  have own : Marker.standard.keywords "export const kw(\"a\")" = ["a"] := by decide +kernel
  have found : extract "kw" "export const kw(\"a\")" = .ok ["a"] :=
    (congrArg (Except.map _) (Marker.ofText_text Marker.standard)).trans (congrArg Except.ok own)
  have same : second.keywords = ["a"] := Except.ok.inj (declared.symm.trans found)
  exact ⟨succeeds, second, same, fun runs => (later runs).1⟩

end KeywordHarvest.Harvest
