import KeywordHarvest.Proofs.FileTree.Separate
import KeywordHarvest.Proofs.Harvest.Outcome

/-! Two generations in either order. When neither writes the file that the other reads or writes,
each makes the same harvest first or second, and the same tree is left. -/

namespace KeywordHarvest.Harvest

open FileTree (SameFile Stores)

variable {settings : Settings} {tree changed : FileTree} {harvest : Harvest}

def Generates (settings : Settings) (tree : FileTree) (harvest : Harvest) (changed : FileTree) :
    Prop :=
  ((generate settings).run tree).1.result = .ok harvest ∧
    ((generate settings).run tree).2 = changed

/-- The content of the input file, and the file that the list is put into. -/
theorem generates_iff : Generates settings tree harvest changed ↔
    ∃ content target mode, tree.read settings.input = .ok content ∧
      (ofContent settings (.ok content)).result = .ok harvest ∧
      Stores tree settings.output (Text.encode harvest.rendered) target mode changed := by
  refine generate_eq_ok.trans ?_
  rw [FileTree.write_eq_ok_iff_stores]
  constructor
  · rintro ⟨made, target, mode, stores⟩
    obtain ⟨text, _, decoded, _⟩ := ofContent_eq_ok.mp made
    obtain ⟨content, present, _⟩ := textOf_eq_ok.mp decoded
    exact ⟨content, target, mode, present, present ▸ made, stores⟩
  · rintro ⟨content, target, mode, present, made, stores⟩
    exact ⟨present ▸ made, target, mode, stores⟩

theorem generate_comm {first second : Settings} {tree middle after : FileTree}
    {one another : Harvest} (earlier : Generates first tree one middle)
    (later : Generates second middle another after)
    (outputs : ¬ after.SameFile first.output second.output)
    (unread : ¬ after.SameFile first.output second.input)
    (unread' : ¬ after.SameFile second.output first.input) :
    ∃ between, Generates second tree another between ∧ Generates first between one after := by
  obtain ⟨content, target, mode, present, made, stores⟩ := generates_iff.mp earlier
  obtain ⟨content', target', mode', present', made', stores'⟩ := generates_iff.mp later
  obtain ⟨source, _, opened, file⟩ := FileTree.read_eq_ok.mp present
  obtain ⟨source', _, opened', file'⟩ := FileTree.read_eq_ok.mp present'
  have taken : tree.at? source ≠ none := by rw [file]; exact Option.some_ne_none _
  have taken' : middle.at? source' ≠ none := by rw [file']; exact Option.some_ne_none _
  -- In the last tree all four paths lead where they led when they were used.
  have output : after.resolve .opening first.output = .ok target :=
    FileTree.resolve_opening (stores'.creating (stores.creating stores.leads))
  have input : after.resolve .opening first.input = .ok source :=
    stores'.opening (stores.opening opened taken) (stores.taken taken)
  have input' : after.resolve .opening second.input = .ok source' := stores'.opening opened' taken'
  have targets := FileTree.ne_of_not_sameFile outputs output stores'.opens
  have clear := FileTree.ne_of_not_sameFile unread output input'
  have clear' := FileTree.ne_of_not_sameFile unread' stores'.opens input
  have sooner := stores.earlier stores' targets
  refine ⟨_, generates_iff.mpr ⟨content', target', mode', ?_, made', sooner⟩,
    generates_iff.mpr ⟨content, target, mode, ?_, made, stores.postponed stores' targets⟩⟩
  · exact stores.read_before opened' clear.symm present'
  · exact sooner.read_after opened clear'.symm present

/-- One output is a link to a file that is not there yet. -/
def sharedTree : FileTree :=
  (((FileTree.bare []).set [Text.encode "g"] (.file (Text.encode "kw(\"b\")") 0o644)).set
    [Text.encode "o"] (.link (Text.encode "n"))).set [Text.encode "p"]
      (.file (Text.encode "old") 0o600)

def linkedOutput : Settings := ⟨Text.encode "g", Text.encode "o", "kw", .typeScript, "L"⟩

def plainOutput : Settings := ⟨Text.encode "./g", Text.encode "p", "kw", .json, "L"⟩

def sharedHarvest (settings : Settings) : Harvest :=
  ofMarker settings.listing "kw(\"b\")" Marker.standard

def linkedTarget : FileTree :=
  sharedTree.set [Text.encode "n"]
    (.file (Text.encode (sharedHarvest linkedOutput).rendered) FileTree.newMode)

theorem generate_comm_shared_input :
    ∃ middle after, Generates linkedOutput sharedTree (sharedHarvest linkedOutput) middle ∧
      Generates plainOutput middle (sharedHarvest plainOutput) after ∧
      ∃ between, Generates plainOutput sharedTree (sharedHarvest plainOutput) between ∧
        Generates linkedOutput between (sharedHarvest linkedOutput) after := by
  have made : (ofContent linkedOutput (.ok (Text.encode "kw(\"b\")"))).result =
      .ok (sharedHarvest linkedOutput) :=
    ofContent_encode (Marker.ofText_text Marker.standard)
  have made' : (ofContent plainOutput (.ok (Text.encode "kw(\"b\")"))).result =
      .ok (sharedHarvest plainOutput) :=
    ofContent_encode (Marker.ofText_text Marker.standard)
  have earlier : Generates linkedOutput sharedTree (sharedHarvest linkedOutput) linkedTarget :=
    generates_iff.mpr ⟨_, [Text.encode "n"], FileTree.newMode, rfl, made, rfl, rfl, rfl⟩
  have later : Generates plainOutput linkedTarget (sharedHarvest plainOutput) _ :=
    generates_iff.mpr ⟨_, [Text.encode "p"], 0o600, rfl, made', rfl, rfl, rfl⟩
  refine ⟨_, _, earlier, later, generate_comm earlier later ?_ ?_ ?_⟩ <;>
    rintro ⟨place, found, found'⟩ <;> cases found <;> cases found'

end KeywordHarvest.Harvest
