import KeywordHarvest.Proofs.Harvest.Outcome
import KeywordHarvest.Proofs.Text.Decoded

/-! Which fault a harvest ends with. An input that cannot be read as text comes before a marker that
is refused, and both come before an output that cannot be written; nothing else can go wrong. A
harvest of a text, of an input file and into an output file agree as far as each of them goes. -/

namespace KeywordHarvest

namespace Marker

inductive Refuses (text : String) : Fault → Prop
  | empty (empty : text = "") : Refuses text .empty
  | tooLong (long : 326106 < text.utf8ByteSize) : Refuses text .tooLong

theorem ofText_eq_error {text : String} {fault : Fault} :
    ofText text = .error fault ↔ Refuses text fault := by
  unfold ofText
  constructor
  · intro refused
    split at refused
    case isTrue empty =>
      cases refused
      exact .empty empty
    case isFalse nonempty =>
      split at refused
      case isTrue fits => cases refused
      case isFalse long =>
        cases refused
        exact .tooLong (Nat.lt_of_not_le long)
  · rintro (empty | long)
    · rw [dif_pos empty]
    · have nonempty : text ≠ "" := by
        rintro rfl
        cases long
      rw [dif_neg nonempty, dif_neg (Nat.not_le_of_lt long)]

end Marker

namespace FileTree

variable {tree : FileTree} {path : Path}

def Writable (tree : FileTree) (path : Path) : Prop :=
  ∀ content, ∃ changed, tree.write path content = .ok changed

/-- Every write fails, whatever the content. -/
def Unwritable (tree : FileTree) (path : Path) (cause : Fault) : Prop :=
  ∀ content, tree.write path content = .error cause

theorem writable_or_unwritable (tree : FileTree) (path : Path) :
    tree.Writable path ∨ ∃ cause, tree.Unwritable path cause := by
  unfold Writable Unwritable write
  cases tree.resolve .creating path with
  | error cause => exact .inr ⟨cause, fun _ => rfl⟩
  | ok place =>
      change (∀ content, ∃ changed, tree.putAt content place = .ok changed) ∨
        ∃ cause, ∀ content, tree.putAt content place = .error cause
      unfold putAt
      cases tree.at? place with
      | none => exact .inl fun _ => ⟨_, rfl⟩
      | some node =>
          cases node with
          | file content mode => exact .inl fun _ => ⟨_, rfl⟩
          | directory => exact .inr ⟨.isDirectory, fun _ => rfl⟩
          | link target => exact .inr ⟨.isDirectory, fun _ => rfl⟩

end FileTree

namespace Harvest

variable {settings : Settings} {tree : FileTree} {text : String} {harvest : Harvest} {fault : Fault}

inductive Unmade (settings : Settings) (tree : FileTree) : Fault → Prop
  | unopened {cause : FileTree.Fault} (unread : tree.read settings.input = .error cause) :
      Unmade settings tree (.unreadable settings.input cause)
  | foreign {content : Bytes} (present : tree.read settings.input = .ok content)
      (foreign : Text.IsForeign content) :
      Unmade settings tree (.unreadable settings.input .notText)
  | marker {text : String} {fault : Marker.Fault}
      (present : tree.read settings.input = .ok (Text.encode text))
      (refused : Marker.Refuses settings.marker fault) : Unmade settings tree (.marker fault)

inductive Unstored (settings : Settings) (tree : FileTree) : Fault → Prop
  | unmade {fault : Fault} (unmade : Unmade settings tree fault) : Unstored settings tree fault
  | unwritten {text : String} {cause : FileTree.Fault}
      (present : tree.read settings.input = .ok (Text.encode text))
      (accepted : ∀ fault, ¬ Marker.Refuses settings.marker fault)
      (unwritable : tree.Unwritable settings.output cause) :
      Unstored settings tree (.unwritable settings.output cause)

theorem ofText_eq_error : (ofText settings text).result = .error fault ↔
    ∃ refused, fault = .marker refused ∧ Marker.Refuses settings.marker refused := by
  simp only [← Marker.ofText_eq_error]
  unfold ofText
  cases Marker.ofText settings.marker with
  | error refused => simp [eq_comm]
  | ok marker => simp

theorem result_of_foreign {content : Bytes} (foreign : Text.IsForeign content) :
    (ofContent settings (.ok content)).result = .error (.unreadable settings.input .notText) := by
  have unknown : textOf (.ok content) = .error .notText := by
    simp [textOf, bind, Except.bind, Text.decode?_eq_none.mpr foreign]
  rw [ofContent, unknown]
  rfl

theorem result_of_text (settings : Settings) (text : String) :
    (ofContent settings (.ok (Text.encode text))).result = (ofText settings text).result := by
  have known : textOf (.ok (Text.encode text)) = .ok text :=
    textOf_eq_ok.mpr ⟨_, rfl, Text.decode?_encode text⟩
  rw [ofContent, known]
  rfl

theorem read_cases (tree : FileTree) (path : Path) :
    (∃ cause, tree.read path = .error cause) ∨
    (∃ content, tree.read path = .ok content ∧ Text.IsForeign content) ∨
    ∃ text, tree.read path = .ok (Text.encode text) := by
  cases read : tree.read path with
  | error cause => exact .inl ⟨cause, rfl⟩
  | ok content =>
      cases decoded : Text.decode? content with
      | none => exact .inr (.inl ⟨content, rfl, Text.decode?_eq_none.mp decoded⟩)
      | some text => exact .inr (.inr ⟨text, by rw [Text.decode?_eq_some.mp decoded]⟩)

theorem ofContent_eq_error :
    (ofContent settings (tree.read settings.input)).result = .error fault ↔
      Unmade settings tree fault := by
  constructor
  · intro failed
    rcases read_cases tree settings.input with
      ⟨cause, unread⟩ | ⟨content, present, foreign⟩ | ⟨text, present⟩
    · rw [unread] at failed
      cases failed
      exact .unopened unread
    · rw [present, result_of_foreign foreign] at failed
      cases failed
      exact .foreign present foreign
    · rw [present, result_of_text] at failed
      obtain ⟨refused, rfl, why⟩ := ofText_eq_error.mp failed
      exact .marker present why
  · rintro (unread | ⟨present, foreign⟩ | ⟨present, refused⟩)
    · rw [unread]
      rfl
    · rw [present, result_of_foreign foreign]
    · rw [present, result_of_text]
      exact ofText_eq_error.mpr ⟨_, rfl, refused⟩

theorem ofContent_eq_ok_iff_ofText :
    (ofContent settings (tree.read settings.input)).result = .ok harvest ↔
      ∃ text, tree.read settings.input = .ok (Text.encode text) ∧
        (ofText settings text).result = .ok harvest := by
  constructor
  · intro made
    rcases read_cases tree settings.input with
      ⟨cause, unread⟩ | ⟨content, present, foreign⟩ | ⟨text, present⟩
    · rw [unread] at made
      cases made
    · rw [present, result_of_foreign foreign] at made
      cases made
    · rw [present, result_of_text] at made
      exact ⟨text, present, made⟩
  · rintro ⟨text, present, made⟩
    rw [present, result_of_text, made]

theorem generate_eq_error_iff :
    ((generate settings).run tree).1.result = .error fault ↔ Unstored settings tree fault := by
  constructor
  · intro failed
    cases made : (ofContent settings (tree.read settings.input)).result with
    | error cause =>
        rw [run_generate_of_unmade made, made] at failed
        cases failed
        exact .unmade (ofContent_eq_error.mp made)
    | ok harvest =>
        obtain ⟨text, present, found⟩ := ofContent_eq_ok_iff_ofText.mp made
        rcases tree.writable_or_unwritable settings.output with writable | ⟨cause, unwritable⟩
        · obtain ⟨changed, stored⟩ := writable (Text.encode harvest.rendered)
          rw [run_generate_of_stored made stored] at failed
          cases failed
        · rw [run_generate_of_unstored made (unwritable _)] at failed
          cases failed
          refine .unwritten present (fun refused why => ?_) unwritable
          cases found.symm.trans (ofText_eq_error.mpr ⟨refused, rfl, why⟩)
  · rintro (unmade | @⟨text, cause, present, accepted, unwritable⟩)
    · have failed := ofContent_eq_error.mpr unmade
      rw [run_generate_of_unmade failed, failed]
    · cases found : (ofText settings text).result with
      | error fault =>
          obtain ⟨refused, _, why⟩ := ofText_eq_error.mp found
          exact absurd why (accepted refused)
      | ok harvest =>
          have made := ofContent_eq_ok_iff_ofText.mpr ⟨text, present, found⟩
          rw [run_generate_of_unstored made (unwritable _)]

theorem generate_eq_ok_iff :
    ((generate settings).run tree).1.result = .ok harvest ↔
      (ofContent settings (tree.read settings.input)).result = .ok harvest ∧
        tree.Writable settings.output := by
  constructor
  · intro succeeds
    obtain ⟨made, stored⟩ := generate_eq_ok.mp ⟨succeeds, rfl⟩
    refine ⟨made, (tree.writable_or_unwritable settings.output).resolve_right ?_⟩
    rintro ⟨cause, unwritable⟩
    cases stored.symm.trans (unwritable _)
  · rintro ⟨made, writable⟩
    obtain ⟨changed, stored⟩ := writable (Text.encode harvest.rendered)
    exact (generate_eq_ok.mpr ⟨made, stored⟩).1

structure Reports (settings : Settings) (tree : FileTree) : Prop where
  ofText : ∀ text fault, (ofText settings text).result = .error fault ↔
    ∃ refused, fault = .marker refused ∧ Marker.Refuses settings.marker refused
  ofInput : ∀ fault, ((ofInput settings).run tree).1.result = .error fault ↔
    Unmade settings tree fault
  generate : ∀ fault, ((generate settings).run tree).1.result = .error fault ↔
    Unstored settings tree fault
  made : ∀ harvest, ((Harvest.ofInput settings).run tree).1.result = .ok harvest ↔
    ∃ text, tree.read settings.input = .ok (Text.encode text) ∧
      (Harvest.ofText settings text).result = .ok harvest
  stored : ∀ harvest, ((Harvest.generate settings).run tree).1.result = .ok harvest ↔
    ((Harvest.ofInput settings).run tree).1.result = .ok harvest ∧ tree.Writable settings.output

theorem reports_first_fault (settings : Settings) (tree : FileTree) : Reports settings tree where
  ofText _ _ := ofText_eq_error
  ofInput fault := by
    rw [run_ofInput]
    exact ofContent_eq_error
  generate _ := generate_eq_error_iff
  made harvest := by
    rw [run_ofInput]
    exact ofContent_eq_ok_iff_ofText
  stored harvest := by
    rw [run_ofInput]
    exact generate_eq_ok_iff

/-- Bytes that are no text, a grammar, and a directory in the place of an output. -/
def tangledTree : FileTree :=
  (((FileTree.bare []).set [Text.encode "b"] (.file [0xFF] 0o644)).set
    [Text.encode "g"] (.file (Text.encode "kw(\"a\")") 0o644)).set
    [Text.encode "d"] .directory

def tangledSettings (input : String) (marker : String) : Settings :=
  ⟨Text.encode input, Text.encode "d", marker, .standard⟩

theorem reports_first_fault_tangled :
    ((generate (tangledSettings "b" "")).run tangledTree).1.result =
        .error (.unreadable (Text.encode "b") .notText) ∧
      ((generate (tangledSettings "g" "")).run tangledTree).1.result = .error (.marker .empty) ∧
      ((generate (tangledSettings "g" "kw")).run tangledTree).1.result =
        .error (.unwritable (Text.encode "d") .isDirectory) := by
  have foreign : Text.IsForeign [0xFF] := Text.decode?_eq_none.mp (by decide +kernel)
  have accepted : ∀ fault, ¬ Marker.Refuses "kw" fault := by
    rintro _ (empty | long)
    · exact absurd empty (by decide +kernel)
    · exact absurd long (by decide +kernel)
  have present : tangledTree.read (Text.encode "g") = .ok (Text.encode "kw(\"a\")") := rfl
  exact ⟨((reports_first_fault _ _).generate _).mpr (.unmade (.foreign rfl foreign)),
    ((reports_first_fault _ _).generate _).mpr (.unmade (.marker present (.empty rfl))),
    ((reports_first_fault _ _).generate _).mpr (.unwritten present accepted fun _ => rfl)⟩

end Harvest

end KeywordHarvest
