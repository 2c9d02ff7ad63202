import KeywordHarvest.Proofs.Settings.Mention
import KeywordHarvest.Proofs.Settings.Undisturbed
import KeywordHarvest.Proofs.Text.Decoded

/-! Which fault loading ends with. A layer fails or loads by its own file, whatever was merged
before it, so the first layer that fails decides the fault, and nothing after it is seen. Only an
index before the first element, in a document that loads, comes before it. Values of the wrong kind
are looked at once every layer has loaded. -/

namespace KeywordHarvest

variable {tree changed : FileTree}

namespace Layer

variable {diagnosis : String → String} {layer : Layer} {layers before after : List Layer}
  {documents : List Document} {fault cause : Fault}

/-- What keeps a layer from loading. An optional one may be missing, or not be text. -/
inductive Fails (diagnosis : String → String) (tree : FileTree) (layer : Layer) : Fault → Prop
  | notFound (required : layer.required = true)
      (absent : ∀ name ∈ lookups tree.cwd layer.path, tree.file? name = none) :
      Fails diagnosis tree layer (.notFound layer.path)
  | notText {name : Path} {content : Bytes} (required : layer.required = true)
      (found : found? tree layer.path = some (name, content)) (foreign : Text.IsForeign content) :
      Fails diagnosis tree layer .notText
  | malformed {name : Path} {text : String}
      (found : found? tree layer.path = some (name, Text.encode text))
      (unread : Toml.read? text = none) :
      Fails diagnosis tree layer (.malformed (origin tree.cwd name) (diagnosis text))

theorem found?_eq_none {path : Path} :
    found? tree path = none ↔ ∀ name ∈ lookups tree.cwd path, tree.file? name = none := by
  simp only [found?, List.findSome?_eq_none_iff, Option.map_eq_none_iff]

theorem refuse_eq_error :
    layer.refuse fault = .error cause ↔ layer.required = true ∧ fault = cause := by
  unfold refuse
  split
  case isTrue required => simp [required]
  case isFalse optional => simp [optional]

theorem outcome_eq_error : outcome diagnosis tree layer = .error fault ↔
    Fails diagnosis tree layer fault := by
  constructor
  · intro failed
    unfold outcome at failed
    cases found : found? tree layer.path with
    | none =>
        rw [found, tableOf] at failed
        obtain ⟨required, rfl⟩ := refuse_eq_error.mp failed
        exact .notFound required (found?_eq_none.mp found)
    | some file =>
        obtain ⟨name, content⟩ := file
        rw [found] at failed
        cases decoded : Text.decode? content with
        | none =>
            simp only [tableOf, decoded] at failed
            obtain ⟨required, rfl⟩ := refuse_eq_error.mp failed
            exact .notText required found (Text.decode?_eq_none.mp decoded)
        | some text =>
            rw [Text.decode?_eq_some.mp decoded] at found
            cases read : Toml.read? text with
            | none =>
                simp only [tableOf, decoded, read] at failed
                cases failed
                exact .malformed found read
            | some fields =>
                simp only [tableOf, decoded, read] at failed
                cases failed
  · rintro (⟨required, absent⟩ | ⟨required, found, foreign⟩ | ⟨found, unread⟩)
    · rw [outcome, found?_eq_none.mpr absent]
      exact refuse_eq_error.mpr ⟨required, rfl⟩
    · rw [outcome, found]
      simp only [tableOf, Text.decode?_eq_none.mpr foreign]
      exact refuse_eq_error.mpr ⟨required, rfl⟩
    · rw [outcome, found]
      simp only [tableOf, Text.decode?_encode, unread]

theorem fails_iff_document?_eq_none :
    (∃ fault, Fails diagnosis tree layer fault) ↔ layer.document? tree = none := by
  constructor
  · rintro ⟨fault, fails⟩
    refine Option.eq_none_iff_forall_ne_some.mpr fun document loads => ?_
    cases (outcome_eq_error.mpr fails).symm.trans (outcome_of_document? loads diagnosis)
  · intro missing
    have required (kept : layer.passedOver? = none) : layer.required = true := by
      unfold passedOver? at kept
      split at kept
      case isTrue required => exact required
      case isFalse => cases kept
    unfold document? at missing
    cases found : found? tree layer.path with
    | none =>
        rw [found] at missing
        exact ⟨_, .notFound (required missing) (found?_eq_none.mp found)⟩
    | some file =>
        obtain ⟨name, content⟩ := file
        rw [found] at missing
        cases decoded : Text.decode? content with
        | none =>
            simp only [decoded] at missing
            exact ⟨_, .notText (required missing) found (Text.decode?_eq_none.mp decoded)⟩
        | some text =>
            simp only [decoded, Option.map_eq_none_iff] at missing
            rw [Text.decode?_eq_some.mp decoded] at found
            exact ⟨_, .malformed found missing⟩

theorem document?_of_passed (foreign : ∀ name content,
      found? tree localFile = some (name, content) → Text.IsForeign content) :
    (Layer.mk localFile false).document? tree = some ⟨"", []⟩ := by
  unfold document?
  cases found : found? tree localFile with
  | none => rfl
  | some file =>
      obtain ⟨name, content⟩ := file
      simp only [Text.decode?_eq_none.mpr (foreign name content found)]
      rfl

/-- The layers before this one load, and these are their documents. -/
def Reaches (tree : FileTree) (layers : List Layer) (documents : List Document) (layer : Layer) :
    Prop :=
  ∃ before after, layers = before ++ layer :: after ∧ documents? before tree = some documents

theorem gather_of_fails (loads : documents? before tree = some documents)
    (fails : Fails diagnosis tree layer fault) (after : List Layer) :
    gather diagnosis tree (before ++ layer :: after) =
      (documents.map Document.table, some fault) := by
  have stuck : gather diagnosis tree (layer :: after) = ([], some fault) := by
    rw [gather, outcome_eq_error.mpr fails]
  rw [gather_append loads, stuck, List.append_nil]

theorem loads_or_fails (diagnosis : String → String) (tree : FileTree) (layers : List Layer) :
    (∃ documents, documents? layers tree = some documents) ∨
      ∃ documents layer fault, Reaches tree layers documents layer ∧
        Fails diagnosis tree layer fault := by
  induction layers with
  | nil => exact .inl ⟨[], rfl⟩
  | cons layer layers ih =>
      cases own : layer.document? tree with
      | none =>
          obtain ⟨fault, fails⟩ := fails_iff_document?_eq_none.mpr own
          exact .inr ⟨[], layer, fault, ⟨[], layers, rfl, rfl⟩, fails⟩
      | some document =>
          rcases ih with ⟨documents, loads⟩ | ⟨documents, last, fault, reached, fails⟩
          · exact .inl ⟨_, documents?_cons.mpr ⟨document, documents, own, loads, rfl⟩⟩
          · obtain ⟨before, after, rfl, loads⟩ := reached
            exact .inr ⟨_, last, fault, ⟨layer :: before, after, rfl,
              documents?_cons.mpr ⟨document, documents, own, loads, rfl⟩⟩, fails⟩

end Layer

namespace Settings

open Layer (Document Fails Reaches)

variable {host : Host} {sources : Sources} {layer : Layer} {documents : List Document}

theorem run_load_of_fails {fault : Layer.Fault}
    (reached : Reaches tree sources.layers documents layer)
    (fails : Fails host.diagnosis tree layer fault) :
    ((load host sources).run tree).1 =
      (merged host (writesFrom host.order 0 (documents.map Document.table)) Table.standard).bind
        fun _ => .error (.layer fault) := by
  obtain ⟨before, after, split, loads⟩ := reached
  rw [run_load, split, Layer.gather_of_fails loads fails, ending_some]

theorem merged_eq_error {writes : List Write} {table : Table} {fault : Fault} :
    merged host writes table = .error fault ↔
      ∃ crash, merge writes table = .error crash ∧ fault = .crash (host.crashReport crash) :=
  mapError_eq_error

theorem load_ne_layer (loads : Layer.documents? sources.layers tree = some documents)
    (fault : Layer.Fault) : ((load host sources).run tree).1 ≠ .error (.layer fault) := by
  rw [run_load_of_documents? loads]
  intro failed
  cases once : merged host (writesFrom host.order 0 (documents.map Document.table))
      Table.standard with
  | error cause =>
      obtain ⟨crash, _, rfl⟩ := merged_eq_error.mp once
      rw [once] at failed
      cases failed
  | ok table =>
      rw [once] at failed
      simp only [Except.bind, settle] at failed
      cases again : merged host (table.writes host.order.merged) [] with
      | error cause =>
          obtain ⟨crash, _, rfl⟩ := merged_eq_error.mp again
          rw [again] at failed
          cases failed
      | ok table =>
          rw [again] at failed
          simp only [bind, Except.bind] at failed
          cases read : (sources.overrides.replaceIn table).settings host.order.reading <;>
            rw [read] at failed <;> cases failed

structure FirstFault (host : Host) (sources : Sources) (tree : FileTree) : Prop where
  first : ∀ fault, ((load host sources).run tree).1 = .error (.layer fault) ↔
    ∃ documents layer, Reaches tree sources.layers documents layer ∧
      Fails host.diagnosis tree layer fault ∧
      ∃ table, merge (writesFrom host.order 0 (documents.map Document.table)) Table.standard =
        .ok table
  reported : ∀ documents layer, Reaches tree sources.layers documents layer →
    layer.document? tree = none → (∀ document ∈ documents, document.fields.IsForward) →
    ∃ fault, Fails host.diagnosis tree layer fault ∧
      ((load host sources).run tree).1 = .error (.layer fault)
  late : ∀ found, ((load host sources).run tree).1 = .error (.mismatch found) →
    ∃ documents, Layer.documents? sources.layers tree = some documents
  optional : (∀ name content, Layer.found? tree Layer.localFile = some (name, content) →
      Text.IsForeign content) →
    (Layer.mk Layer.localFile false).document? tree = some ⟨"", []⟩ ∧
      (load host { sources with project := true }).run tree =
        (load (host.skip 0) { sources with project := false }).run tree
  alike : ∀ (again : Host) (other : Sources) (changed : FileTree) documents before layer after
      replaced,
    again.diagnosis = host.diagnosis →
    sources.layers = before ++ layer :: after → other.layers = before ++ layer :: replaced →
    Layer.documents? before tree = some documents → layer.document? tree = none →
    (∀ document ∈ documents, document.fields.IsForward) → changed.cwd = tree.cwd →
    (∀ shared ∈ before ++ [layer], ∀ name ∈ Layer.lookups tree.cwd shared.path,
      changed.file? name = tree.file? name) →
    ((load again other).run changed).1 = ((load host sources).run tree).1

theorem load_eq_layer {fault : Layer.Fault} :
    ((load host sources).run tree).1 = .error (.layer fault) ↔
      ∃ documents layer, Reaches tree sources.layers documents layer ∧
        Fails host.diagnosis tree layer fault ∧
        ∃ table, merge (writesFrom host.order 0 (documents.map Document.table)) Table.standard =
          .ok table := by
  have ends {documents layer cause} (reached : Reaches tree sources.layers documents layer)
      (fails : Fails host.diagnosis tree layer cause) :
      ((load host sources).run tree).1 = .error (.layer fault) ↔ cause = fault ∧
        ∃ table, merge (writesFrom host.order 0 (documents.map Document.table)) Table.standard =
          .ok table := by
    rw [run_load_of_fails reached fails, merged]
    cases merge (writesFrom host.order 0 (documents.map Document.table)) Table.standard with
    | error crash =>
        refine iff_of_false (fun failed => ?_) (fun finished => ?_)
        · cases failed
        · obtain ⟨_, _, finished⟩ := finished
          cases finished
    | ok table =>
        constructor
        · intro failed
          cases failed
          exact ⟨rfl, table, rfl⟩
        · rintro ⟨rfl, _⟩
          rfl
  constructor
  · intro failed
    rcases Layer.loads_or_fails host.diagnosis tree sources.layers with
      ⟨documents, loads⟩ | ⟨documents, layer, cause, reached, fails⟩
    · exact absurd failed (load_ne_layer loads fault)
    · obtain ⟨rfl, finished⟩ := (ends reached fails).mp failed
      exact ⟨documents, layer, reached, fails, finished⟩
  · rintro ⟨documents, layer, reached, fails, finished⟩
    exact (ends reached fails).mpr ⟨rfl, finished⟩

theorem load_of_reaches (reached : Reaches tree sources.layers documents layer)
    (stuck : layer.document? tree = none)
    (forward : ∀ document ∈ documents, document.fields.IsForward) (host : Host) :
    ∃ fault, Fails host.diagnosis tree layer fault ∧
      ((load host sources).run tree).1 = .error (.layer fault) := by
  obtain ⟨fault, fails⟩ := Layer.fails_iff_document?_eq_none.mpr stuck
  exact ⟨fault, fails, load_eq_layer.mpr ⟨documents, layer, reached, fails,
    Layer.exists_merge_writesFrom forward host.order 0 Table.standard⟩⟩

theorem load_eq_of_reaches {again : Host} {other : Sources} {last : Layer}
    {others : List Document} (reached : Reaches tree sources.layers documents layer)
    (reached' : Reaches changed other.layers others last) (stuck : layer.document? tree = none)
    (forward : ∀ document ∈ documents, document.fields.IsForward)
    (forward' : ∀ document ∈ others, document.fields.IsForward)
    (same : Layer.outcome again.diagnosis changed last = Layer.outcome host.diagnosis tree layer) :
    ((load again other).run changed).1 = ((load host sources).run tree).1 := by
  obtain ⟨fault, fails, ended⟩ := load_of_reaches reached stuck forward host
  have fails' : Fails again.diagnosis changed last fault :=
    Layer.outcome_eq_error.mp (same.trans (Layer.outcome_eq_error.mpr fails))
  rw [ended]
  exact load_eq_layer.mpr ⟨others, last, reached', fails',
    Layer.exists_merge_writesFrom forward' again.order 0 Table.standard⟩

theorem run_load_of_passed (host : Host) (files : List Path) (overrides : Overrides)
    (passed : (Layer.mk Layer.localFile false).document? tree = some ⟨"", []⟩) :
    (load host ⟨true, files, overrides⟩).run tree =
      (load (host.skip 0) ⟨false, files, overrides⟩).run tree := by
  have layered : Sources.layers ⟨true, files, overrides⟩ =
      ⟨Layer.localFile, false⟩ :: Sources.layers ⟨false, files, overrides⟩ := rfl
  have writes (tables : List Table) : writesFrom host.order 0 ([] :: tables) =
      writesFrom (host.skip 0).order 0 tables := (writesFrom_skip host [] tables).symm
  have own := Layer.outcome_of_document? passed host.diagnosis
  rw [run_load, run_load, layered, Layer.gather, own]
  exact congrArg (fun writes => (ending host overrides writes _, tree)) (writes _)

/-- The first layer that fails decides, where the documents before it have no negative index, and
nothing after it or of another kind has a part in it. -/
theorem load_first_fault (host : Host) (sources : Sources) (tree : FileTree) :
    FirstFault host sources tree where
  first _ := load_eq_layer
  reported _ _ reached stuck forward := load_of_reaches reached stuck forward host
  late found mismatched := by
    rcases Layer.loads_or_fails host.diagnosis tree sources.layers with
      loads | ⟨documents, layer, fault, reached, fails⟩
    · exact loads
    · rw [run_load_of_fails reached fails] at mismatched
      cases once : merged host (writesFrom host.order 0 (documents.map Document.table))
          Table.standard with
      | error cause =>
          obtain ⟨crash, _, rfl⟩ := merged_eq_error.mp once
          rw [once] at mismatched
          cases mismatched
      | ok table =>
          rw [once] at mismatched
          cases mismatched
  optional foreign := by
    have passed := Layer.document?_of_passed foreign
    exact ⟨passed, run_load_of_passed host sources.files sources.overrides passed⟩
  alike again other changed documents before layer after replaced diagnosed split split' loads
      stuck forward there same := by
    have found : ∀ shared ∈ before ++ [layer],
        Layer.found? changed shared.path = Layer.found? tree shared.path :=
      fun shared member => Layer.found?_congr there (same shared member)
    have loads' : Layer.documents? before changed = some documents := by
      rw [← loads]
      exact Layer.documents?_congr there fun shared member =>
        found shared (List.mem_append_left [layer] member)
    have own := Layer.outcome_congr there
      (found layer (List.mem_append_right before List.mem_cons_self)) again.diagnosis
    exact load_eq_of_reaches ⟨before, after, split, loads⟩ ⟨before, replaced, split', loads'⟩ stuck
      forward forward (own.trans (congrArg (Layer.outcome · tree layer) diagnosed))

/-- The local file is no text. The first file, found by its other name, has a list for a marker. -/
def stackedTree : FileTree :=
  (((FileTree.bare []).set [Text.encode "kwgen.toml"] (.file [0xFF] 0o644)).set
    [Text.encode "first.toml"] (.file (Text.encode "marker = [1]") 0o644)).set
    [Text.encode "broken.toml"] (.file (Text.encode "marker = [") 0o644)

def stackedSources : Sources := ⟨true, ["first", "broken.toml", "missing"].map Text.encode, {}⟩

def stackedBefore : List Layer := [⟨Layer.localFile, false⟩, ⟨Text.encode "first", true⟩]

def stackedBroken : Layer := ⟨Text.encode "broken.toml", true⟩

def stackedDocuments : List Document :=
  [⟨"", []⟩, ⟨"first.toml", [("marker", .array [.integer 1])]⟩]

/-- Other overrides, and the file that was missing. -/
def restackedTree : FileTree :=
  stackedTree.set [Text.encode "missing"] (.file (Text.encode "output = 'o'") 0o644)

def restackedSources : Sources :=
  ⟨true, ["first"].map Text.encode,
    { configFile := some (Text.encode "broken.toml"), format := some .json }⟩

theorem load_first_fault_stacked :
    stackedTree.cwd = restackedTree.cwd ∧ ∀ host,
      ((load host stackedSources).run stackedTree).1 =
          .error (.layer (.malformed "broken.toml" (host.diagnosis "marker = ["))) ∧
        ((load host restackedSources).run restackedTree).1 =
          .error (.layer (.malformed "broken.toml" (host.diagnosis "marker = ["))) := by
  have there : restackedTree.cwd = stackedTree.cwd := FileTree.cwd_set stackedTree _ _
  refine ⟨there.symm, fun host => ?_⟩
  have holds := load_first_fault host stackedSources stackedTree
  have split : stackedSources.layers =
      stackedBefore ++ stackedBroken :: [⟨Text.encode "missing", true⟩] := rfl
  have loads : Layer.documents? stackedBefore stackedTree = some stackedDocuments := rfl
  have named : Layer.origin stackedTree.cwd (Text.encode "broken.toml") = "broken.toml" := by
    decide +kernel
  have found : Layer.found? stackedTree stackedBroken.path =
      some (Text.encode "broken.toml", Text.encode "marker = [") := by
    decide +kernel
  have unread : Toml.read? "marker = [" = none := by decide +kernel
  have fails : Fails host.diagnosis stackedTree stackedBroken (.malformed
      (Layer.origin stackedTree.cwd (Text.encode "broken.toml")) (host.diagnosis "marker = [")) :=
    .malformed found unread
  rw [named] at fails
  have stuck := Layer.fails_iff_document?_eq_none.mp ⟨_, fails⟩
  have forward : ∀ document ∈ stackedDocuments, document.fields.IsForward := by decide +kernel
  have finished := Layer.exists_merge_writesFrom forward host.order 0 Table.standard
  have stopped := (holds.first _).mpr ⟨stackedDocuments, stackedBroken,
    ⟨stackedBefore, _, split, loads⟩, fails, finished⟩
  have same : ∀ shared ∈ stackedBefore ++ [stackedBroken],
      ∀ name ∈ Layer.lookups stackedTree.cwd shared.path,
      restackedTree.file? name = stackedTree.file? name := by
    decide +kernel
  have split' : restackedSources.layers = stackedBefore ++ stackedBroken :: [] := rfl
  have again := holds.alike host restackedSources restackedTree stackedDocuments stackedBefore
    stackedBroken _ [] rfl split split' loads stuck forward there same
  exact ⟨stopped, again.trans stopped⟩

def trimmedTree : FileTree :=
  (FileTree.bare []).set [Text.encode "conf.toml"] (.file (Text.encode "marker = 'm'") 0o644)

/-- An index before the first element of a list that is not there. -/
def crashingTree : FileTree :=
  (FileTree.bare []).set [Text.encode "kwgen.toml"] (.file (Text.encode "'foo[-1]' = 1") 0o644)

/-- A file is found although neither its path nor the path with `.toml` after it leads to one; and a
layer that loads ends the run before one that fails. -/
theorem load_first_fault_trimmed :
    (∀ name ∈ ["conf/", "conf/.toml"], trimmedTree.file? (Text.encode name) = none) ∧
      ((load .plain ⟨false, ["conf/"].map Text.encode, {}⟩).run trimmedTree).1 =
        .ok { standard with marker := "m" } ∧
      Fails Host.plain.diagnosis crashingTree ⟨Text.encode "missing", true⟩
        (.notFound (Text.encode "missing")) ∧
      ((load .plain ⟨true, ["missing"].map Text.encode, {}⟩).run crashingTree).1 =
        .error (.crash "index out of bounds\n") := by
  have absent : ∀ name ∈ Layer.lookups [] (Text.encode "missing"),
      crashingTree.file? name = none := by
    decide +kernel
  refine ⟨by decide +kernel, toOption_eq_some.mp (by decide +kernel), .notFound rfl absent, ?_⟩
  decide +kernel

end Settings

end KeywordHarvest
