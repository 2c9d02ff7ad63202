import KeywordHarvest.Proofs.Settings.LastWriter
import KeywordHarvest.Proofs.Text.RoundTrip
import KeywordHarvest.Proofs.Toml.KeyLines

/-! Settings that are written out as a document and loaded again. The document has a line for each
setting, in any order and any layout, with the text written in any way between its quotes. Where it
is the last layer and nothing overrides it, loading gives these texts and nothing else. -/

namespace KeywordHarvest

open Toml (mentions textField)

def Setting.entry (texts : Setting → String) (setting : Setting) : String × String :=
  (setting.name, texts setting)

theorem Format.lowerCase_of_ofName? {name : String} {format : Format}
    (named : ofName? name = some format) : Text.lowerCase name = name := by
  unfold ofName? at named
  split at named
  case h_4 => cases named
  all_goals decide +kernel

namespace Setting

variable {setting : Setting}

theorem isPlain_name (setting : Setting) :
    Address.isPlain setting.name && Address.isPlain (Text.lowerCase setting.name) := by
  cases setting <;> decide +kernel

theorem ofKey?_name (setting : Setting) : ofKey? setting.name = some setting := by
  cases setting <;> decide +kernel

theorem isForward_name (setting : Setting) : (Address.ofKey setting.name).IsForward ∧
    (Address.ofKey (Text.lowerCase setting.name)).IsForward := by
  cases setting <;> decide +kernel

theorem mentions_entry (texts : Setting → String) (own : Setting) :
    mentions setting (textField (own.entry texts)) = decide (own = setting) := by
  simp [mentions, textField, entry, ofKey?_name, Toml.Value.isEmptyTable]

end Setting

namespace Layer

variable {texts : Setting → String} {order : List Setting} {setting : Setting}

def Document.ofTexts (origin : String) (texts : Setting → String) (order : List Setting) :
    Document :=
  ⟨origin, (order.map (Setting.entry texts)).map textField⟩

theorem Document.isTidy_ofTexts (origin : String) (texts : Setting → String)
    (once : order.Nodup) : (ofTexts origin texts order).IsTidy := by
  have fields {field : String × Toml.Value} (among : field ∈ (ofTexts origin texts order).fields) :
      ∃ own : Setting, field.1 = own.name := by
    obtain ⟨entry, there, rfl⟩ := List.mem_map.mp among
    obtain ⟨own, _, rfl⟩ := List.mem_map.mp there
    exact ⟨own, rfl⟩
  constructor
  case apart =>
    change List.Pairwise _ ((order.map (Setting.entry texts)).map textField)
    rw [List.pairwise_map, List.pairwise_map]
    refine once.imp fun {first second} distinct setting mentioned => ?_
    rw [Setting.mentions_entry, decide_eq_true_eq] at mentioned
    rw [Setting.mentions_entry, decide_eq_false_iff_not, ← mentioned]
    exact distinct.symm
  case spelled =>
    intro field among path
    obtain ⟨own, same⟩ := fields among
    rw [same, own.isPlain_name] at path
    cases path
  case forward =>
    intro field among
    obtain ⟨own, same⟩ := fields among
    rw [same]
    exact own.isForward_name

theorem Document.change?_ofTexts (origin : String) (there : setting ∈ order) :
    (ofTexts origin texts order).change? setting =
      some (.replace (.string (texts setting))) := by
  have found : order.find? (fun own => decide (own = setting)) = some setting := by
    cases first : order.find? (fun own => decide (own = setting)) with
    | none => exact absurd (decide_eq_true rfl) (List.find?_eq_none.mp first setting there)
    | some own =>
        have same : own = setting := by simpa using List.find?_some first
        rw [same]
  have own : Address.isPlain setting.name := (Bool.and_eq_true_iff.mp setting.isPlain_name).1
  have held : mentions setting ∘ textField ∘ Setting.entry texts =
      fun own => decide (own = setting) := funext (Setting.mentions_entry texts)
  have whole : (Address.targetOf setting.name).steps = [] := by rw [Address.target_of_plain own]
  rw [change?, ofTexts, List.map_map, List.find?_map, held, found, Option.map_some,
    Option.bind_some]
  exact Change.ofField?_of_plain whole

end Layer

theorem Overrides.replaceIn_of_silent {overrides : Overrides}
    (silent : ∀ setting, overrides.text setting = none) (table : Table) :
    overrides.replaceIn table = table := by
  simp [replaceIn, replaceOne, Setting.all, silent]

namespace Settings

open Layer (Document)

variable {texts : Setting → String} {format : Format} {order : List Setting}
  {document : List Char}

def ofTexts (texts : Setting → String) (format : Format) : Settings :=
  ⟨Text.encode (texts .input), Text.encode (texts .output), texts .marker,
    ⟨format, texts .listName⟩⟩

theorem load_of_last {sources : Sources} {earlier : List Layer} {layer : Layer} {origin : String}
    {tree : FileTree} {documents : List Document} (host : Host)
    (layers : sources.layers = earlier ++ [layer])
    (silent : ∀ setting, sources.overrides.text setting = none)
    (loads : Layer.documents? earlier tree = some documents)
    (spelled : ∀ document ∈ documents, document.fields.LowerCasePaths)
    (forward : ∀ document ∈ documents, document.fields.IsForward)
    (last : layer.document? tree = some (Document.ofTexts origin texts order))
    (once : order.Nodup) (all : ∀ setting, setting ∈ order)
    (named : Format.ofName? (texts .format) = some format) :
    (load host sources).run tree = (.ok (ofTexts texts format), tree) := by
  have tidy := Document.isTidy_ofTexts origin texts once
  have every {holds : Toml.Fields → Prop} (before : ∀ document ∈ documents, holds document.fields)
      (own : holds (Document.ofTexts origin texts order).fields) :
      ∀ document ∈ documents ++ [Document.ofTexts origin texts order], holds document.fields :=
    List.forall_mem_append.mpr ⟨before, List.forall_mem_singleton.mpr own⟩
  have spelled := every spelled tidy.spelled
  obtain ⟨table, merges⟩ := exists_merges (every forward tidy.forward) host
  have kinds (setting : Setting) : table.kind? setting.name = some (.string (texts setting)) := by
    obtain ⟨first, once, same⟩ := merges.kind? spelled
    rw [List.map_append, writesFrom_append, merge_append] at once
    obtain ⟨between, before, own⟩ := bind_eq_ok.mp once
    obtain ⟨kind, present⟩ : ∃ kind, between.kind? setting.name = some kind := by
      rw [kind?_merge before, Table.kind?_standard]
      exact exists_kindsAfter _ _
    rw [same, Layer.kind?_merge_writesFrom (List.forall_mem_singleton.mpr tidy) own present,
      List.filterMap_cons, Document.change?_ofTexts origin (all setting)]
    rfl
  have read (setting : Setting) : table.text setting = .ok (texts setting) :=
    Table.text_of_kind? (.inl rfl) (kinds setting)
  have known : Format.ofName? (Text.lowerCase (texts .format)) = some format := by
    rw [Format.lowerCase_of_ofName? named, named]
  have chosen := Table.format_of_kind? known (kinds .format)
  have loads : Layer.documents? sources.layers tree =
      some (documents ++ [Document.ofTexts origin texts order]) := by
    rw [layers]
    exact Layer.documents?_append loads (Layer.documents?_cons.mpr ⟨_, [], last, rfl, rfl⟩)
  rw [run_load_of_merges loads merges, Overrides.replaceIn_of_silent silent,
    Table.settings_eq_ok (fun setting _ => read setting) chosen]
  rfl

/-- A document that has every setting once loads as the texts that are written in it: as the local
file, and as any last layer whose file is found. -/
theorem load_written (once : order.Nodup) (all : ∀ setting, setting ∈ order)
    (lines : Toml.Lines (order.map (Setting.entry texts)) document)
    (named : Format.ofName? (texts .format) = some format) (host : Host) :
    (∀ tree : FileTree,
      tree.read Layer.localFile = .ok (Text.encode (String.ofList document)) →
      (Layer.localFile.under tree.cwd).length < FileTree.pathLimit →
        (ofProject host {}).run tree = (.ok (ofTexts texts format), tree)) ∧
    ∀ (sources : Sources) (earlier : List Layer) (layer : Layer) (documents : List Document)
        (tree : FileTree) (path : Path),
      sources.layers = earlier ++ [layer] →
      (∀ setting, sources.overrides.text setting = none) →
      Layer.documents? earlier tree = some documents →
      (∀ document ∈ documents, document.fields.LowerCasePaths) →
      (∀ document ∈ documents, document.fields.IsForward) →
      Layer.found? tree layer.path = some (path, Text.encode (String.ofList document)) →
        (load host sources).run tree = (.ok (ofTexts texts format), tree) := by
  have distinct : ((order.map (Setting.entry texts)).map Prod.fst).Nodup := by
    rw [List.map_map]
    exact List.Pairwise.map _ (fun first second apart same => apart (Setting.name_injective same))
      once
  have reads := Toml.read?_lines lines distinct
  have silent (setting : Setting) : ({} : Overrides).text setting = none := by cases setting <;> rfl
  constructor
  · intro tree stored short
    have layers : (Sources.mk true [] {}).layers = [] ++ [⟨Layer.localFile, false⟩] := rfl
    have found := Layer.found?_of_read stored short
    have last : (Layer.mk Layer.localFile false).document? tree =
        some (Document.ofTexts _ texts order) := Layer.document?_of_found? found reads
    exact load_of_last host layers silent rfl (List.forall_mem_nil _) (List.forall_mem_nil _) last
      once all named
  · intro sources earlier layer documents tree path layers silent loads spelled forward found
    have last : layer.document? tree = some (Document.ofTexts _ texts order) :=
      Layer.document?_of_found? found reads
    exact load_of_last host layers silent loads spelled forward last once all named

/-- Quotes, a zero character, a backslash, a line end and a character beyond the first plane. -/
def escapedText : Setting → String
  | .input => "\x00\"g"
  | .output => "é😀"
  | .marker => "\\\t\n"
  | .listName => ""
  | .format => "ts"

def escapedOrder : List Setting := [.format, .input, .listName, .marker, .output]

def escapedDocument : String :=
  "# any\torder\r\nformat = \"t\\u0073\"\n \t\ninput = \"\\u0000\\\"g\"\r\nlist_name = \"\"\n" ++
    "marker = \"\\\\\t\\n\"\noutput = \"é\\U0001f600\"\n  # end\n"

def escapedTree : FileTree :=
  (FileTree.bare []).set [Text.encode "kwgen.toml"] (.file (Text.encode escapedDocument) 0o644)

theorem escapedDocument_lines : ∃ document,
    Toml.Lines (escapedOrder.map (Setting.entry escapedText)) document ∧
      String.ofList document = escapedDocument := by
  have short : Toml.Spelled 's' ['\\', 'u', '0', '0', '7', '3'] := .short rfl rfl
  have zero : Toml.Spelled '\x00' ['\\', 'u', '0', '0', '0', '0'] := .short rfl rfl
  have long : Toml.Spelled '😀' ['\\', 'U', '0', '0', '0', '1', 'f', '6', '0', '0'] := .long rfl rfl
  have format : Toml.Written ['t', 's'] ['t', '\\', 'u', '0', '0', '7', '3'] :=
    .cons (.alone (by decide)) (.cons short .nil)
  have input : Toml.Written ['\x00', '"', 'g'] ['\\', 'u', '0', '0', '0', '0', '\\', '"', 'g'] :=
    .cons zero (.cons (.letter (by decide)) (.cons (.alone (by decide)) .nil))
  have marker : Toml.Written ['\\', '\t', '\n'] ['\\', '\\', '\t', '\\', 'n'] :=
    .cons (.letter (by decide)) (.cons (.alone (by decide)) (.cons (.letter (by decide)) .nil))
  have output : Toml.Written ['é', '😀'] ['é', '\\', 'U', '0', '0', '0', '1', 'f', '6', '0', '0'] :=
    .cons (.alone (by decide)) (.cons long .nil)
  have start : Toml.Gap ([] ++ '#' :: " any\torder".toList) :=
    .comment (by simp) (by simp [Toml.IsCommentChar])
  have between : Toml.Gap [' ', '\t'] := .blank (by simp)
  have last : Toml.Gap ([' ', ' '] ++ '#' :: " end".toList) :=
    .comment (by simp) (by simp [Toml.IsCommentChar])
  have bare (setting : Setting) : Toml.IsBareKey setting.name := by
    cases setting <;> exact ⟨by decide, List.all_eq_true.mp (by decide)⟩
  have lines : Toml.Lines (escapedOrder.map (Setting.entry escapedText)) _ :=
    .gap start .returnFeed (.entry (bare .format) format .feed (.gap between .feed
      (.entry (bare .input) input .returnFeed (.entry (bare .listName) .nil .feed
        (.entry (bare .marker) marker .feed (.entry (bare .output) output .feed
          (.gap last .feed .nil)))))))
  exact ⟨_, lines, by decide +kernel⟩

/-- A local file that fixes nothing, and the document in a file that is named without its ending. -/
def coveredTree : FileTree :=
  ((FileTree.bare []).set [Text.encode "kwgen.toml"]
    (.file (Text.encode "marker = [1]\nformat = 'no'") 0o644)).set [Text.encode "conf.toml"]
      (.file (Text.encode escapedDocument) 0o644)

def coveredDocument : Document :=
  ⟨"kwgen.toml", [("marker", .array [.integer 1]), ("format", .string "no")]⟩

theorem load_written_escaped :
    (∀ host, (ofProject host {}).run escapedTree =
      (.ok (ofTexts escapedText .typeScript), escapedTree)) ∧
      ∀ host, (ofProject host { configFile := some (Text.encode "conf") }).run coveredTree =
        (.ok (ofTexts escapedText .typeScript), coveredTree) := by
  obtain ⟨document, lines, written⟩ := escapedDocument_lines
  have complete : ∀ setting, setting ∈ escapedOrder := by decide
  have stored : escapedTree.read Layer.localFile = .ok (Text.encode (String.ofList document)) := by
    rw [written]
    rfl
  have short : (Layer.localFile.under escapedTree.cwd).length < FileTree.pathLimit := by decide
  have covered : Layer.documents? [⟨Layer.localFile, false⟩] coveredTree =
      some [coveredDocument] := rfl
  have spelled : ∀ document ∈ [coveredDocument], document.fields.LowerCasePaths := by
    decide +kernel
  have forward : ∀ document ∈ [coveredDocument], document.fields.IsForward := by decide +kernel
  have found : Layer.found? coveredTree (Text.encode "conf") =
      some (Text.encode "conf.toml", Text.encode (String.ofList document)) := by
    rw [written]
    rfl
  have silent (setting : Setting) :
      ({ configFile := some (Text.encode "conf") } : Overrides).text setting = none := by
    cases setting <;> rfl
  have loaded := load_written (by decide) complete lines rfl
  constructor
  · intro host
    exact (loaded host).1 escapedTree stored short
  · intro host
    exact (loaded host).2 ⟨true, [], { configFile := some (Text.encode "conf") }⟩
      [⟨Layer.localFile, false⟩] ⟨Text.encode "conf", true⟩ [coveredDocument] coveredTree _ rfl
      silent covered spelled forward found

end Settings

end KeywordHarvest
