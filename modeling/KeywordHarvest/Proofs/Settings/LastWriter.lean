import KeywordHarvest.Proofs.Settings.Mention
import KeywordHarvest.Proofs.Settings.Reading

/-! Where each setting comes from: an override, else the last layer that mentions it, else the
standard value. Where all these sources hold plain values, loading succeeds with exactly them; what
the other layers say, of whatever kind, is not seen. -/

namespace KeywordHarvest

open Toml (mentions)

theorem Entry.change?_of_plainText? {value : Toml.Value} {text : String}
    (plain : value.plainText? = some text) :
    ∃ kind : Kind, kind.IsText text ∧
      ∀ origin, (ofValue origin value).change? = some (.replace kind) := by
  cases value with
  | string own =>
      cases plain
      exact ⟨.string text, .inl rfl, fun _ => rfl⟩
  | moment own =>
      cases plain
      exact ⟨.string own.text, .inl rfl, fun _ => rfl⟩
  | integer own =>
      cases plain
      exact ⟨.scalar (toString own), .inr rfl, fun _ => rfl⟩
  | float own =>
      cases plain
      exact ⟨.scalar own.text, .inr rfl, fun _ => rfl⟩
  | boolean own =>
      cases plain
      exact ⟨.scalar (if own then "true" else "false"), .inr rfl, fun _ => rfl⟩
  | array values => cases plain
  | table kind fields => cases plain
  | tables kind tables => cases plain

namespace Layer

def lastMention (setting : Setting) : List Document → Option (String × Toml.Value)
  | [] => none
  | document :: documents =>
      (lastMention setting documents).or (document.fields.find? (mentions setting))

variable {setting : Setting} {documents : List Document}

theorem changes_of_none (silent : lastMention setting documents = none) :
    documents.filterMap (·.change? setting) = [] := by
  induction documents with
  | nil => rfl
  | cons document documents ih =>
      obtain ⟨later, own⟩ := Option.or_eq_none_iff.mp silent
      rw [List.filterMap_cons, Document.change?, own]
      exact ih later

theorem foldl_changes_of_some {field : String × Toml.Value} {kind : Kind}
    (last : lastMention setting documents = some field) (plain : Address.isPlain field.1)
    (replaces : ∀ origin, (Entry.ofValue origin field.2).change? = some (.replace kind))
    (old : Kind) :
    (documents.filterMap (·.change? setting)).foldl (fun kind next => next.apply kind) old =
      kind := by
  induction documents generalizing old with
  | nil => cases last
  | cons document documents ih =>
      rcases Option.or_eq_some_iff.mp last with later | ⟨silent, found⟩
      · rw [List.filterMap_cons]
        cases document.change? setting with
        | none => exact ih later old
        | some change => exact ih later (change.apply old)
      · -- The documents after this one are silent, so what it leaves stays.
        have own : document.change? setting = some (.replace kind) := by
          rw [Document.change?, found, Option.bind_some, Change.ofField?_of_plain]
          · exact replaces document.origin
          · rw [Address.target_of_plain plain]
        rw [List.filterMap_cons, own, changes_of_none silent]
        rfl

end Layer

inductive Source
  | given (text : String)
  | field (key : String) (value : Toml.Value)
  | standard

namespace Source

def text? (setting : Setting) : Source → Option String
  | given text => some text
  | field key value => if Address.isPlain key then value.plainText? else none
  | standard => some setting.standard

def format? : Source → Option Format
  | given text => Format.ofName? (Text.lowerCase text)
  | field key (.string name) =>
      if Address.isPlain key then Format.ofName? (Text.lowerCase name) else none
  | field _ _ => none
  | standard => Format.ofName? (Text.lowerCase (Setting.standard .format))

/-- What the source fixes the kind of a setting to, whatever was there before. -/
def Fixes (setting : Setting) (kind : Kind) : Source → Prop
  | given text => kind = .string text
  | field key value =>
      Address.isPlain key ∧ ∀ origin, (Entry.ofValue origin value).change? = some (.replace kind)
  | standard => kind = .string setting.standard

variable {source : Source} {setting : Setting}

theorem fixes_of_text? {text : String} (plain : source.text? setting = some text) :
    ∃ kind, source.Fixes setting kind ∧ kind.IsText text := by
  cases source with
  | given own =>
      cases plain
      exact ⟨.string text, rfl, .inl rfl⟩
  | standard =>
      cases plain
      exact ⟨.string setting.standard, rfl, .inl rfl⟩
  | field key value =>
      obtain ⟨whole, scalar⟩ : Address.isPlain key ∧ value.plainText? = some text := by
        simpa [text?] using plain
      obtain ⟨kind, reads, replaces⟩ := Entry.change?_of_plainText? scalar
      exact ⟨kind, ⟨whole, replaces⟩, reads⟩

theorem fixes_of_format? {format : Format} (named : source.format? = some format) :
    ∃ name, source.Fixes .format (.string name) ∧
      Format.ofName? (Text.lowerCase name) = some format := by
  cases source with
  | given name => exact ⟨name, rfl, named⟩
  | standard => exact ⟨Setting.standard .format, rfl, named⟩
  | field key value =>
      cases value with
      | string name =>
          obtain ⟨whole, known⟩ : Address.isPlain key ∧
              Format.ofName? (Text.lowerCase name) = some format := by
            simpa [format?] using named
          exact ⟨name, ⟨whole, fun _ => rfl⟩, known⟩
      | _ => cases named

end Source

def Overrides.source (overrides : Overrides) (documents : List Layer.Document)
    (setting : Setting) : Source :=
  match overrides.text setting with
  | some text => .given text
  | none =>
      match Layer.lastMention setting documents with
      | some field => .field field.1 field.2
      | none => .standard

namespace Settings

variable {host : Host} {documents : List Layer.Document} {overrides : Overrides} {table : Table}

theorem Merges.kind?_of_fixes {setting : Setting} {kind : Kind}
    (tidy : ∀ document ∈ documents, document.IsTidy) (merges : Merges host documents table)
    (fixed : (overrides.source documents setting).Fixes setting kind)
    (text : ∃ text, kind.IsText text) :
    (overrides.replaceIn table).kind? setting.name = some kind := by
  have stays : kind.lower = kind := by
    obtain ⟨text, rfl | rfl⟩ := text <;> rfl
  rw [Overrides.kind?_replaceIn, merges.kind?_of_tidy tidy]
  unfold Overrides.source at fixed
  cases own : overrides.text setting with
  | some text =>
      rw [own] at fixed
      exact congrArg some fixed.symm
  | none =>
      rw [own] at fixed
      rw [Option.elim_none, Layer.kindAt]
      cases last : Layer.lastMention setting documents with
      | none =>
          rw [last] at fixed
          rw [Layer.changes_of_none last]
          exact congrArg some fixed.symm
      | some field =>
          rw [last] at fixed
          obtain ⟨whole, replaces⟩ := fixed
          rw [Layer.foldl_changes_of_some last whole replaces, stays]

/-- Where every setting has a plain source, loading gives the texts of these sources; values of the
wrong kind behind them do no harm, and neither does the order in which keys come. -/
theorem load_last_writer {sources : Sources} {tree : FileTree} {documents : List Layer.Document}
    {texts : Setting → String} {format : Format} (host : Host)
    (loads : Layer.documents? sources.layers tree = some documents)
    (apart : ∀ document ∈ documents, document.fields.Unambiguous)
    (spelled : ∀ document ∈ documents, document.fields.LowerCasePaths)
    (forward : ∀ document ∈ documents, document.fields.IsForward)
    (plain : ∀ setting, setting ≠ .format →
      (sources.overrides.source documents setting).text? setting = some (texts setting))
    (named : (sources.overrides.source documents .format).format? = some format) :
    (load host sources).run tree =
      (.ok ⟨Text.encode (texts .input), Text.encode (texts .output), texts .marker,
        ⟨format, texts .listName⟩⟩, tree) := by
  have tidy : ∀ document ∈ documents, document.IsTidy := fun document member =>
    ⟨apart document member, spelled document member, forward document member⟩
  obtain ⟨table, merges⟩ := exists_merges forward host
  have read : ∀ setting, setting ≠ .format →
      (sources.overrides.replaceIn table).text setting = .ok (texts setting) := by
    intro setting other
    obtain ⟨kind, fixed, reads⟩ := Source.fixes_of_text? (plain setting other)
    exact Table.text_of_kind? reads (merges.kind?_of_fixes tidy fixed ⟨_, reads⟩)
  obtain ⟨name, fixed, known⟩ := Source.fixes_of_format? named
  have chosen := Table.format_of_kind? known
    (merges.kind?_of_fixes tidy fixed ⟨name, .inl rfl⟩)
  rw [run_load_of_merges loads merges, Table.settings_eq_ok read chosen]
  rfl

/-- The first file has values of the wrong kind for all settings but one. -/
def layeredTree : FileTree :=
  ((FileTree.bare []).set [Text.encode "kwgen.toml"]
    (.file (Text.encode "Input = 'g'\nmarker = [1]\n'list_name.x' = 1\nformat = 'no'") 0o644)).set
    [Text.encode "more.toml"] (.file (Text.encode "MARKER = 7\nformat = 'TS'\noutput = []") 0o644)

def layeredSources : Sources :=
  ⟨true, [Text.encode "more"], { output := some (Text.encode "o"), listName := some "L" }⟩

def layeredDocuments : List Layer.Document :=
  [⟨"kwgen.toml", [("Input", .string "g"), ("marker", .array [.integer 1]),
      ("list_name.x", .integer 1), ("format", .string "no")]⟩,
    ⟨"more.toml", [("MARKER", .integer 7), ("format", .string "TS"), ("output", .array [])]⟩]

def layeredText : Setting → String
  | .input => "g"
  | .output => "o"
  | .marker => "7"
  | .listName => "L"
  | .format => "typescript"

theorem load_last_writer_layered :
    Layer.documents? layeredSources.layers layeredTree = some layeredDocuments ∧
      ∀ host, (load host layeredSources).run layeredTree =
        (.ok ⟨Text.encode "g", Text.encode "o", "7", ⟨.typeScript, "L"⟩⟩, layeredTree) := by
  have loads : Layer.documents? layeredSources.layers layeredTree = some layeredDocuments := rfl
  have apart : ∀ document ∈ layeredDocuments, document.fields.Unambiguous := by decide +kernel
  have spelled : ∀ document ∈ layeredDocuments, document.fields.LowerCasePaths := by
    decide +kernel
  have forward : ∀ document ∈ layeredDocuments, document.fields.IsForward := by decide +kernel
  have plain : ∀ setting, setting ≠ .format →
      (layeredSources.overrides.source layeredDocuments setting).text? setting =
        some (layeredText setting) := by
    decide +kernel
  have named : (layeredSources.overrides.source layeredDocuments .format).format? =
      some .typeScript := by
    decide +kernel
  exact ⟨loads, fun host => load_last_writer host loads apart spelled forward plain named⟩

end Settings

end KeywordHarvest
