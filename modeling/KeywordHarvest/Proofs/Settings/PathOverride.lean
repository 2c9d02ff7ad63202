import KeywordHarvest.Proofs.Settings.LastWriter
import KeywordHarvest.Proofs.Text.Subparts

/-! Paths that are given as overrides. A path goes through text: one that is text comes out as it
was given, and any other one with every maximal ill-formed subpart replaced. What comes out is text,
so it would come out the same again. -/

namespace KeywordHarvest

namespace Path

variable {path other : Path}

/-- What is left of a path that goes through text. -/
def shown (path : Path) : Path := Text.encode path.text

@[simp] theorem shown_encode (text : String) : shown (Text.encode text) = Text.encode text := by
  rw [shown, Path.text, Text.lenient_eq_of_decode? (Text.decode?_encode text)]

theorem shown_eq_self_iff : path.shown = path ↔ ∃ text, path = Text.encode text := by
  constructor
  · intro same
    exact ⟨path.text, same.symm⟩
  · rintro ⟨text, rfl⟩
    exact shown_encode text

theorem shown_shown (path : Path) : path.shown.shown = path.shown :=
  shown_encode path.text

theorem shown_of_cut {pieces : List Text.Piece} (cut : Text.Cut path pieces) :
    path.shown = Text.encode (String.ofList (pieces.map (·.getD '\uFFFD'))) := by
  rw [shown, Path.text, Text.lenient, Text.pieces_eq_iff.mpr cut]

end Path

inductive PathSetting
  | input
  | output
  deriving DecidableEq

namespace PathSetting

def setting : PathSetting → Setting
  | input => .input
  | output => .output

end PathSetting

def Settings.path (settings : Settings) : PathSetting → Path
  | .input => settings.input
  | .output => settings.output

def Overrides.give (overrides : Overrides) (which : PathSetting) (path : Path) : Overrides :=
  match which with
  | .input => { overrides with input := some path }
  | .output => { overrides with output := some path }

/-- What stands for the setting is of the kind that it asks for. -/
def Table.Fits (table : Table) : Setting → Prop
  | .format => ∃ format, (table.entry .format >>= Entry.format) = .ok format
  | setting => ∃ text, table.text setting = .ok text

namespace Table

variable {table other : Table} {setting : Setting}

theorem Fits.text (fits : table.Fits setting) (apart : setting ≠ .format) :
    ∃ text, table.text setting = .ok text := by
  cases setting with
  | format => exact absurd rfl apart
  | _ => exact fits

theorem Fits.congr (fits : table.Fits setting)
    (same : other.kind? setting.name = table.kind? setting.name) : other.Fits setting := by
  cases setting with
  | format =>
      obtain ⟨format, named⟩ := fits
      exact ⟨format, (format_congr same).trans named⟩
  | _ =>
      obtain ⟨text, read⟩ := fits
      exact ⟨text, (text_congr same).trans read⟩

theorem settings_of_fits (fits : ∀ setting, table.Fits setting) (order : Setting → Nat) :
    ∃ settings, table.settings order = .ok settings ∧ ∀ which : PathSetting,
      ∃ text, table.text which.setting = .ok text ∧ settings.path which = Text.encode text := by
  have read : ∀ setting, setting ≠ .format →
      table.text setting = .ok ((table.text setting).toOption.getD "") := by
    intro setting apart
    obtain ⟨text, read⟩ := (fits setting).text apart
    rw [read]
    rfl
  obtain ⟨format, named⟩ := fits .format
  refine ⟨_, settings_eq_ok read named order, fun which => ?_⟩
  cases which with
  | input => exact ⟨_, read .input (by decide), rfl⟩
  | output => exact ⟨_, read .output (by decide), rfl⟩

end Table

theorem Overrides.text_give (overrides : Overrides) (which : PathSetting) (path : Path)
    (setting : Setting) : (overrides.give which path).text setting =
      if setting = which.setting then some path.text else overrides.text setting := by
  cases which <;> cases setting <;> rfl

def Sources.give (sources : Sources) (which : PathSetting) (path : Path) : Sources :=
  { sources with overrides := sources.overrides.give which path }

theorem Sources.layers_give (sources : Sources) (which : PathSetting) (path : Path) :
    (sources.give which path).layers = sources.layers := by
  cases which <;> rfl

namespace Settings

variable {host : Host} {sources : Sources} {tree : FileTree} {which : PathSetting}
  {path field : Path} {table : Table}

/-- Loading with a path for a setting succeeds, and the setting has the other one. -/
def Gives (host : Host) (sources : Sources) (tree : FileTree) (which : PathSetting)
    (path field : Path) : Prop :=
  ∃ settings : Settings,
    (load host (sources.give which path)).run tree = (.ok settings, tree) ∧
      settings.path which = field

theorem Gives.unique {other : Path} (gives : Gives host sources tree which path field)
    (again : Gives host sources tree which path other) : field = other := by
  obtain ⟨settings, loaded, rfl⟩ := gives
  obtain ⟨settings', loaded', rfl⟩ := again
  rw [loaded] at loaded'
  cases loaded'
  rfl

/-- All layers load and are merged into a table, and what that and the overrides have for every
other setting is of its kind. -/
structure SoundElsewhere (host : Host) (sources : Sources) (tree : FileTree) (which : PathSetting)
    (table : Table) : Prop where
  loads : ∃ documents, Layer.documents? sources.layers tree = some documents ∧
    Merges host documents table
  fits : ∀ other, other ≠ which.setting → (sources.overrides.replaceIn table).Fits other

theorem gives_shown (sound : SoundElsewhere host sources tree which table) (path : Path) :
    Gives host sources tree which path path.shown := by
  have kinds (setting : Setting) :
      ((sources.overrides.give which path).replaceIn table).kind? setting.name =
        if setting = which.setting then some (.string path.text)
        else (sources.overrides.replaceIn table).kind? setting.name := by
    rw [Overrides.kind?_replaceIn, Overrides.kind?_replaceIn, Overrides.text_give]
    split <;> rfl
  have own : ((sources.overrides.give which path).replaceIn table).text which.setting =
      .ok path.text :=
    Table.text_of_kind? (.inl rfl) ((kinds which.setting).trans (if_pos rfl))
  have all (setting : Setting) :
      ((sources.overrides.give which path).replaceIn table).Fits setting := by
    by_cases here : setting = which.setting
    · subst here
      cases which <;> exact ⟨path.text, own⟩
    · exact (sound.fits setting here).congr ((kinds setting).trans (if_neg here))
  obtain ⟨settings, built, paths⟩ := Table.settings_of_fits all host.order.reading
  obtain ⟨text, read, carried⟩ := paths which
  cases own.symm.trans read
  obtain ⟨documents, loads, merges⟩ := sound.loads
  rw [← Sources.layers_give sources which path] at loads
  refine ⟨settings, ?_, carried⟩
  rw [run_load_of_merges loads merges]
  exact congrArg (fun result : Except Mismatch Settings => (result.mapError Fault.mismatch, tree))
    built

theorem Gives.eq_shown (gives : Gives host sources tree which path field)
    (sound : SoundElsewhere host sources tree which table) : field = path.shown :=
  gives.unique (gives_shown sound path)

structure CarriesPaths (host : Host) (sources : Sources) (tree : FileTree) (which : PathSetting) :
    Prop where
  given : ∀ path, ∃ field, Gives host sources tree which path field
  same : ∀ path field, Gives host sources tree which path field →
    (field = path ↔ ∃ text, path = Text.encode text)
  replaced : ∀ path field, Gives host sources tree which path field →
    ∃ pieces, Text.Cut path pieces ∧ (∀ others, Text.Cut path others → others = pieces) ∧
      field = Text.encode (String.ofList (pieces.map (·.getD '\uFFFD')))
  readable : ∀ path field, Gives host sources tree which path field →
    ∃ text, field = Text.encode text
  again : ∀ path field, Gives host sources tree which path field →
    Gives host sources tree which field field
  apart : ∀ first second field, Gives host sources tree which (Text.encode first) field →
    Gives host sources tree which (Text.encode second) field → first = second

/-- Where all layers load and every other setting is of its kind, a path that is given comes out as
it is exactly when it is text, and otherwise with its ill-formed subparts replaced. What the layers
say of the setting itself does not matter. -/
theorem load_path_override (sound : SoundElsewhere host sources tree which table) :
    CarriesPaths host sources tree which where
  given path := ⟨path.shown, gives_shown sound path⟩
  same path field gives := by
    rw [gives.eq_shown sound]
    exact Path.shown_eq_self_iff
  replaced path field gives := by
    have cut := Text.cut_pieces path
    exact ⟨_, cut, fun others again => again.unique cut,
      (gives.eq_shown sound).trans (Path.shown_of_cut cut)⟩
  readable path field gives := ⟨path.text, gives.eq_shown sound⟩
  again path field gives := by
    have again := gives_shown sound field
    rw [gives.eq_shown sound, Path.shown_shown] at again
    rwa [gives.eq_shown sound]
  apart first second field gives gives' := by
    have fields := (gives.eq_shown sound).symm.trans (gives'.eq_shown sound)
    simpa using congrArg Text.decode? fields

/-- The output is a list in the file, but a path is given for it. -/
def listedTree : FileTree :=
  (FileTree.bare []).set [Text.encode "kwgen.toml"]
    (.file (Text.encode "output = [1]\nmarker = 7") 0o644)

/-- A character that breaks off, one of four bytes, a byte that starts none, half of a surrogate
pair and the beginning of a character at the end. -/
def brokenPath : Path :=
  [0x61, 0xE2, 0x82, 0x62, 0xF0, 0x9F, 0x98, 0x80, 0xC0, 0xED, 0xA0, 0x80, 0xF1, 0x80, 0x80]

def listedDocuments : List Layer.Document :=
  [⟨"kwgen.toml", [("output", .array [.integer 1]), ("marker", .integer 7)]⟩]

def listedKind : Setting → Kind
  | .output => .list (some "kwgen.toml")
  | .marker => .scalar "7"
  | setting => .string setting.standard

theorem load_path_override_broken :
    Text.pieces brokenPath =
        [some 'a', none, some 'b', some '😀', none, none, none, none, none] ∧
      ∀ host, Gives host ⟨true, [], {}⟩ listedTree .output brokenPath
        (Text.encode "a\uFFFDb😀\uFFFD\uFFFD\uFFFD\uFFFD\uFFFD") := by
  have known : Text.pieces brokenPath =
      [some 'a', none, some 'b', some '😀', none, none, none, none, none] := by
    decide
  refine ⟨known, fun host => ?_⟩
  have loads : Layer.documents? (Sources.mk true [] {}).layers listedTree =
      some listedDocuments := rfl
  have tidy : ∀ document ∈ listedDocuments, document.IsTidy := by decide +kernel
  have forward := fun document member => (tidy document member).forward
  obtain ⟨table, merges⟩ := exists_merges forward host
  have left : ∀ setting, (Layer.kindAt setting listedDocuments).lower = listedKind setting := by
    decide +kernel
  have kinds (setting : Setting) : table.kind? setting.name = some (listedKind setting) := by
    rw [← left]
    exact merges.kind?_of_tidy tidy setting
  have named : Format.ofName? (Text.lowerCase (Setting.standard .format)) = some .typeScript := by
    decide +kernel
  have fits : ∀ other, other ≠ PathSetting.output.setting →
      (({} : Overrides).replaceIn table).Fits other := by
    intro other apart
    change table.Fits other
    cases other with
    | output => exact absurd rfl apart
    | format => exact ⟨.typeScript, Table.format_of_kind? named (kinds .format)⟩
    | marker => exact ⟨"7", Table.text_of_kind? (.inr rfl) (kinds .marker)⟩
    | input => exact ⟨_, Table.text_of_kind? (.inl rfl) (kinds .input)⟩
    | listName => exact ⟨_, Table.text_of_kind? (.inl rfl) (kinds .listName)⟩
  have holds : CarriesPaths host ⟨true, [], {}⟩ listedTree .output :=
    load_path_override ⟨⟨listedDocuments, loads, merges⟩, fits⟩
  obtain ⟨field, gives⟩ := holds.given brokenPath
  obtain ⟨pieces, cut, _, shown⟩ := holds.replaced brokenPath field gives
  rw [← Text.pieces_eq_iff, known] at cut
  subst cut
  rw [shown] at gives
  exact gives

end Settings

end KeywordHarvest
