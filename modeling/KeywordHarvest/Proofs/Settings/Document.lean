import KeywordHarvest.Proofs.FileTree.Separate
import KeywordHarvest.Proofs.Settings.Table
import KeywordHarvest.Proofs.Text.RoundTrip
import KeywordHarvest.Settings.Load

/-! Layers as documents. Looking for the file of a layer only reads, so what every layer gives is
fixed by the tree before any layer is merged, and loading is one merge of all that is written, up to
the first layer at fault. -/

namespace KeywordHarvest

variable {tree : FileTree}

namespace Layer

def found? (tree : FileTree) (path : Path) : Option (Path × Bytes) :=
  (lookups tree.cwd path).findSome? fun name => (tree.file? name).map (name, ·)

def outcome (diagnosis : String → String) (tree : FileTree) (layer : Layer) : Except Fault Table :=
  layer.tableOf diagnosis tree.cwd (found? tree layer.path)

/-- The tables of the layers before the first one at fault, and that fault. -/
def gather (diagnosis : String → String) (tree : FileTree) :
    List Layer → List Table × Option Fault
  | [] => ([], none)
  | layer :: layers =>
      match outcome diagnosis tree layer with
      | .error fault => ([], some fault)
      | .ok table =>
          (table :: (gather diagnosis tree layers).1, (gather diagnosis tree layers).2)

theorem run_firstFile (paths : List Path) (tree : FileTree) :
    (firstFile paths).run tree =
      (paths.findSome? fun name => (tree.file? name).map (name, ·), tree) := by
  induction paths with
  | nil => rfl
  | cons path paths ih =>
      rw [firstFile, FileTask.run_bind, FileTask.run_readFile, List.findSome?_cons]
      simp only [FileTree.file?]
      cases tree.read path with
      | ok content => rfl
      | error fault => exact ih

theorem run_collect (layer : Layer) (diagnosis : String → String) (tree : FileTree) :
    (layer.collect diagnosis).run tree = (outcome diagnosis tree layer, tree) := by
  rw [collect, FileTask.run_bind, FileTask.run_workingDirectory, FileTask.run_bind, run_firstFile]
  rfl

structure Document where
  origin : String
  fields : Toml.Fields

def Document.table (document : Document) : Table := Entry.ofFields document.origin document.fields

/-- An optional layer that is passed over is a document without keys. -/
def passedOver? (layer : Layer) : Option Document :=
  if layer.required then none else some ⟨"", []⟩

def document? (layer : Layer) (tree : FileTree) : Option Document :=
  match found? tree layer.path with
  | none => layer.passedOver?
  | some (path, content) =>
      match Text.decode? content with
      | none => layer.passedOver?
      | some text => (Toml.read? text).map (⟨origin tree.cwd path, ·⟩)

def documents? (layers : List Layer) (tree : FileTree) : Option (List Document) :=
  layers.mapM (·.document? tree)

variable {layer : Layer} {layers : List Layer} {document : Document} {documents : List Document}

theorem found?_of_read {path : Path} {content : Bytes} (reads : tree.read path = .ok content)
    (short : (path.under tree.cwd).length < FileTree.pathLimit) :
    found? tree path = some (path, content) := by
  rw [found?, lookups, List.filter_cons, if_pos (decide_eq_true short), List.findSome?_cons,
    FileTree.file?_eq_some.mpr reads]
  rfl

theorem document?_of_found? {path : Path} {text : String} {fields : Toml.Fields}
    (found : found? tree layer.path = some (path, Text.encode text))
    (reads : Toml.read? text = some fields) :
    layer.document? tree = some ⟨origin tree.cwd path, fields⟩ := by
  rw [document?, found]
  simp only [Text.decode?_encode, reads, Option.map_some]

theorem refuse_eq_ok (passed : layer.passedOver? = some document) (fault : Fault) :
    layer.refuse fault = .ok document.table := by
  unfold passedOver? at passed
  unfold refuse
  split at passed
  case isTrue => cases passed
  case isFalse optional =>
    cases passed
    rw [if_neg optional]
    rfl

theorem outcome_of_document? (loads : layer.document? tree = some document)
    (diagnosis : String → String) : outcome diagnosis tree layer = .ok document.table := by
  unfold document? at loads
  unfold outcome
  generalize found? tree layer.path = found at loads ⊢
  cases found with
  | none => exact refuse_eq_ok loads _
  | some file =>
      simp only [tableOf] at loads ⊢
      cases decoded : Text.decode? file.2 with
      | none =>
          rw [decoded] at loads
          exact refuse_eq_ok loads _
      | some text =>
          rw [decoded] at loads
          obtain ⟨fields, read, rfl⟩ := Option.map_eq_some_iff.mp loads
          simp only [read]
          rfl

theorem documents?_cons : documents? (layer :: layers) tree = some documents ↔
    ∃ first others, layer.document? tree = some first ∧ documents? layers tree = some others ∧
      documents = first :: others := by
  simp only [documents?, List.mapM_cons, Option.bind_eq_bind, Option.pure_def,
    Option.bind_eq_some_iff, Option.some.injEq]
  constructor
  · rintro ⟨first, own, others, rest, rfl⟩
    exact ⟨first, others, own, rest, rfl⟩
  · rintro ⟨first, others, own, rest, rfl⟩
    exact ⟨first, own, others, rest, rfl⟩

theorem documents?_append {first second : List Layer} {others : List Document}
    (loads : documents? first tree = some documents) (rest : documents? second tree = some others) :
    documents? (first ++ second) tree = some (documents ++ others) := by
  unfold documents? at loads rest ⊢
  simp [List.mapM_append, loads, rest]

theorem gather_append (loads : documents? layers tree = some documents)
    (diagnosis : String → String) (later : List Layer) :
    gather diagnosis tree (layers ++ later) =
      (documents.map Document.table ++ (gather diagnosis tree later).1,
        (gather diagnosis tree later).2) := by
  induction layers generalizing documents with
  | nil =>
      cases loads
      rfl
  | cons layer layers ih =>
      obtain ⟨first, others, own, rest, rfl⟩ := documents?_cons.mp loads
      rw [List.cons_append, gather, outcome_of_document? own, ih rest]
      rfl

theorem gather_of_documents? (loads : documents? layers tree = some documents)
    (diagnosis : String → String) :
    gather diagnosis tree layers = (documents.map Document.table, none) := by
  have whole := gather_append loads diagnosis []
  rwa [List.append_nil, gather, List.append_nil] at whole

end Layer

/-- All that tables write one after another, where the first one has this number. -/
def writesFrom (order : Order) : Nat → List Table → List Write
  | _, [] => []
  | number, table :: tables =>
      table.writes (order.layer number) ++ writesFrom order (number + 1) tables

theorem writesFrom_append (order : Order) (number : Nat) (first second : List Table) :
    writesFrom order number (first ++ second) =
      writesFrom order number first ++ writesFrom order (number + first.length) second := by
  induction first generalizing number with
  | nil => rfl
  | cons table first ih =>
      rw [List.cons_append, writesFrom, writesFrom, ih, List.append_assoc, List.length_cons,
        Nat.add_right_comm, Nat.add_assoc]

theorem writesFrom_congr {first second : Order} {number other : Nat} {tables : List Table}
    (same : ∀ index < tables.length, first.layer (number + index) = second.layer (other + index)) :
    writesFrom first number tables = writesFrom second other tables := by
  induction tables generalizing number other with
  | nil => rfl
  | cons table tables ih =>
      have own : first.layer number = second.layer other := same 0 (Nat.succ_pos _)
      have later : ∀ index < tables.length,
          first.layer (number + 1 + index) = second.layer (other + 1 + index) := by
        intro index small
        rw [Nat.add_right_comm, Nat.add_right_comm other]
        exact same (index + 1) (Nat.succ_lt_succ small)
      rw [writesFrom, writesFrom, own, ih later]

/-- The same surroundings where the layer of this number is left out. -/
def Host.skip (host : Host) (place : Nat) : Host :=
  { host with
    order := { host.order with
      layer := fun number =>
        if number < place then host.order.layer number else host.order.layer (number + 1) } }

theorem writesFrom_skip (host : Host) (before after : List Table) :
    writesFrom (host.skip before.length).order 0 (before ++ after) =
      writesFrom host.order 0 before ++ writesFrom host.order (before.length + 1) after := by
  rw [writesFrom_append]
  refine congrArg₂ (· ++ ·) (writesFrom_congr fun index small => ?_)
    (writesFrom_congr fun index _ => ?_)
  · exact if_pos (by omega)
  · exact (if_neg (by omega)).trans (congrArg host.order.layer (by omega))

namespace Settings

/-- A fault comes after the merge of what was written before it. -/
def unlessFault (fault : Option Layer.Fault) (table : Table) : Except Fault Table :=
  match fault with
  | none => .ok table
  | some fault => .error (.layer fault)

variable {host : Host} {sources : Sources} {documents : List Layer.Document}

theorem merged_append (first second : List Write) (table : Table) :
    merged host (first ++ second) table = (merged host first table).bind (merged host second) := by
  unfold merged
  rw [merge_append]
  cases merge first table <;> rfl

theorem run_mergeAll (number : Nat) (table : Table) (layers : List Layer) (tree : FileTree) :
    (mergeAll host number table layers).run tree =
      ((merged host (writesFrom host.order number (Layer.gather host.diagnosis tree layers).1)
        table).bind (unlessFault (Layer.gather host.diagnosis tree layers).2), tree) := by
  induction layers generalizing number table with
  | nil => rfl
  | cons layer layers ih =>
      rw [mergeAll, FileTask.run_bind, Layer.run_collect, Layer.gather]
      cases Layer.outcome host.diagnosis tree layer with
      | error fault => rfl
      | ok own =>
          simp only [writesFrom]
          rw [merged_append]
          cases merged host (own.writes (host.order.layer number)) table with
          | error fault => rfl
          | ok between => exact ih (number + 1) between

/-- What loading comes to once it is known what layers write, and which fault is met after that. -/
def ending (host : Host) (overrides : Overrides) (writes : List Write)
    (fault : Option Layer.Fault) : Except Fault Settings :=
  ((merged host writes Table.standard).bind (unlessFault fault)).bind (settle host overrides)

theorem run_load (host : Host) (sources : Sources) (tree : FileTree) :
    (load host sources).run tree =
      (ending host sources.overrides
        (writesFrom host.order 0 (Layer.gather host.diagnosis tree sources.layers).1)
        (Layer.gather host.diagnosis tree sources.layers).2, tree) := by
  rw [load, FileTask.run_bind, run_mergeAll]
  rfl

theorem ending_none (overrides : Overrides) (writes : List Write) :
    ending host overrides writes none =
      (merged host writes Table.standard).bind (settle host overrides) := by
  unfold ending
  cases merged host writes Table.standard <;> rfl

theorem ending_some (overrides : Overrides) (writes : List Write) (fault : Layer.Fault) :
    ending host overrides writes (some fault) =
      (merged host writes Table.standard).bind fun _ => .error (.layer fault) := by
  unfold ending
  cases merged host writes Table.standard <;> rfl

theorem run_load_of_documents? (loads : Layer.documents? sources.layers tree = some documents)
    (host : Host) :
    (load host sources).run tree =
      ((merged host (writesFrom host.order 0 (documents.map Layer.Document.table))
        Table.standard).bind (settle host sources.overrides), tree) := by
  rw [run_load, Layer.gather_of_documents? loads, ending_none]

/-- What documents are merged into when neither of the two merges crashes. -/
def Merges (host : Host) (documents : List Layer.Document) (table : Table) : Prop :=
  ∃ first, merge (writesFrom host.order 0 (documents.map Layer.Document.table)) Table.standard =
      .ok first ∧ merge (first.writes host.order.merged) [] = .ok table

theorem run_load_of_merges {table : Table}
    (loads : Layer.documents? sources.layers tree = some documents)
    (merges : Merges host documents table) :
    (load host sources).run tree =
      (((sources.overrides.replaceIn table).settings host.order.reading).mapError .mismatch,
        tree) := by
  obtain ⟨first, once, again⟩ := merges
  rw [run_load_of_documents? loads, merged, once]
  simp only [Except.mapError, Except.bind, settle, merged, again]
  rfl

end Settings

end KeywordHarvest
