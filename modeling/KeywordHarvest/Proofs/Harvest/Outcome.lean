import KeywordHarvest.Harvest
import KeywordHarvest.Proofs.Text.RoundTrip

/-! What generating does to a tree. It succeeds exactly when the input file is text, the marker is
accepted and the output can be written, and then the only change is that one write; when it fails,
for whatever reason, the tree is left as it was. -/

namespace KeywordHarvest.Harvest

variable {settings : Settings} {tree changed : FileTree} {harvest : Harvest}

theorem textOf_eq_ok {content : Except FileTree.Fault Bytes} {text : String} :
    textOf content = .ok text ↔
      ∃ bytes, content = .ok bytes ∧ Text.decode? bytes = some text := by
  cases content with
  | error fault => simp [textOf, bind, Except.bind]
  | ok bytes =>
      cases decoded : Text.decode? bytes with
      | none => simp [textOf, bind, Except.bind, decoded]
      | some text => simp [textOf, bind, Except.bind, decoded, pure, Except.pure]

theorem ofContent_eq_ok {content : Except FileTree.Fault Bytes} :
    (ofContent settings content).result = .ok harvest ↔
      ∃ text marker, textOf content = .ok text ∧ Marker.ofText settings.marker = .ok marker ∧
        harvest = ofMarker settings.listing text marker := by
  unfold ofContent Report.after ofText
  cases textOf content with
  | error fault => simp
  | ok text =>
      cases Marker.ofText settings.marker with
      | error fault => simp
      | ok marker => simp [eq_comm]

theorem ofContent_encode {text : String} {marker : Marker}
    (accepted : Marker.ofText settings.marker = .ok marker) :
    (ofContent settings (.ok (Text.encode text))).result =
      .ok (ofMarker settings.listing text marker) := by
  refine ofContent_eq_ok.mpr ⟨text, marker, textOf_eq_ok.mpr ?_, accepted, rfl⟩
  exact ⟨Text.encode text, rfl, Text.decode?_encode text⟩

theorem run_ofInput (settings : Settings) (tree : FileTree) :
    (ofInput settings).run tree = (ofContent settings (tree.read settings.input), tree) := by
  simp [ofInput]

theorem run_writeOutput (path : Path) (text : String) (tree : FileTree) :
    (writeOutput path text).run tree =
      match tree.write path (Text.encode text) with
      | .ok changed => (written path (Text.encode text) (.ok ()), changed)
      | .error fault => (written path (Text.encode text) (.error fault), tree) := by
  simp only [writeOutput, FileTask.run_bind, FileTask.run_writeFile]
  cases tree.write path (Text.encode text) <;> rfl

theorem writeOutput_eq_error {path : Path} {text : String} {fault : Fault}
    (failed : ((writeOutput path text).run tree).1.result = .error fault) :
    ((writeOutput path text).run tree).2 = tree := by
  rw [run_writeOutput] at failed ⊢
  cases stored : tree.write path (Text.encode text) with
  | ok changed =>
      rw [stored] at failed
      cases failed
  | error fault => rfl

inductive Ends (settings : Settings) (tree : FileTree) : Except Fault Harvest → FileTree → Prop
  | refused {fault : Fault}
      (unmade : (ofContent settings (tree.read settings.input)).result = .error fault) :
      Ends settings tree (.error fault) tree
  | unwritten {harvest : Harvest} {fault : FileTree.Fault}
      (made : (ofContent settings (tree.read settings.input)).result = .ok harvest)
      (unstored : tree.write settings.output (Text.encode harvest.rendered) = .error fault) :
      Ends settings tree (.error (.unwritable settings.output fault)) tree
  | finished {harvest : Harvest} {changed : FileTree}
      (made : (ofContent settings (tree.read settings.input)).result = .ok harvest)
      (stored : tree.write settings.output (Text.encode harvest.rendered) = .ok changed) :
      Ends settings tree (.ok harvest) changed

theorem run_generate_of_unmade {fault : Fault}
    (unmade : (ofContent settings (tree.read settings.input)).result = .error fault) :
    (generate settings).run tree = (ofContent settings (tree.read settings.input), tree) := by
  simp only [generate, FileTask.run_bind, run_ofInput, unmade, FileTask.run_pure]

theorem run_generate_of_unstored {fault : FileTree.Fault}
    (made : (ofContent settings (tree.read settings.input)).result = .ok harvest)
    (unstored : tree.write settings.output (Text.encode harvest.rendered) = .error fault) :
    (generate settings).run tree =
      (⟨(ofContent settings (tree.read settings.input)).events,
        .error (.unwritable settings.output fault)⟩, tree) := by
  simp only [generate, FileTask.run_bind, run_ofInput, made, FileTask.run_pure, run_writeOutput,
    unstored]
  simp [Harvest.finished, written, Report.after]

theorem run_generate_of_stored
    (made : (ofContent settings (tree.read settings.input)).result = .ok harvest)
    (stored : tree.write settings.output (Text.encode harvest.rendered) = .ok changed) :
    (generate settings).run tree =
      (⟨(ofContent settings (tree.read settings.input)).events ++
          [.wrote settings.output (Text.encode harvest.rendered).length,
            .finished harvest.keywords.length settings.output],
        .ok harvest⟩, changed) := by
  simp only [generate, FileTask.run_bind, run_ofInput, made, FileTask.run_pure, run_writeOutput,
    stored]
  simp [Harvest.finished, written, Report.after]

theorem ends_generate (settings : Settings) (tree : FileTree) :
    Ends settings tree ((generate settings).run tree).1.result
      ((generate settings).run tree).2 := by
  cases made : (ofContent settings (tree.read settings.input)).result with
  | error fault =>
      rw [run_generate_of_unmade made, made]
      exact .refused made
  | ok harvest =>
      cases stored : tree.write settings.output (Text.encode harvest.rendered) with
      | error fault =>
          rw [run_generate_of_unstored made stored]
          exact .unwritten made stored
      | ok changed =>
          rw [run_generate_of_stored made stored]
          exact .finished made stored

theorem generate_eq_ok :
    ((generate settings).run tree).1.result = .ok harvest ∧
        ((generate settings).run tree).2 = changed ↔
      (ofContent settings (tree.read settings.input)).result = .ok harvest ∧
        tree.write settings.output (Text.encode harvest.rendered) = .ok changed := by
  have ends := ends_generate settings tree
  generalize ((generate settings).run tree).1.result = result at ends ⊢
  generalize ((generate settings).run tree).2 = left at ends ⊢
  cases ends with
  | refused unmade => simp [unmade]
  | unwritten made unstored =>
      refine iff_of_false (fun ended => nomatch ended.1) fun ⟨again, stored⟩ => ?_
      cases made.symm.trans again
      cases unstored.symm.trans stored
  | finished made stored =>
      constructor
      · rintro ⟨⟨⟩, rfl⟩
        exact ⟨made, stored⟩
      · rintro ⟨again, stored'⟩
        cases made.symm.trans again
        cases stored.symm.trans stored'
        exact ⟨rfl, rfl⟩

theorem generate_eq_error {fault : Fault}
    (failed : ((generate settings).run tree).1.result = .error fault) :
    ((generate settings).run tree).2 = tree := by
  have ends := ends_generate settings tree
  rw [failed] at ends
  generalize ((generate settings).run tree).2 = left at ends ⊢
  cases ends with
  | refused _ => rfl
  | unwritten _ _ => rfl

end KeywordHarvest.Harvest
