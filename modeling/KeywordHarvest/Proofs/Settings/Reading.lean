import KeywordHarvest.Proofs.Settings.Kind
import KeywordHarvest.Settings.Load

/-! Reading settings from a table. Only the kinds of the five entries count, with the order in which
they are met; and overrides put texts in their places. -/

namespace KeywordHarvest

namespace Table

theorem onlyKey?_eq_some {table : Table} {key : String} :
    table.onlyKey? = some key ↔ (table.map Prod.fst).toFinset = {key} := by
  cases table with
  | nil => simp [onlyKey?]
  | cons field others =>
      obtain ⟨own, entry⟩ := field
      have single : (∀ other ∈ others, other.1 = own) ↔
          ∀ name ∈ others.map Prod.fst, name = own := by
        rw [List.forall_mem_map]
      rw [onlyKey?]
      simp only [List.all_eq_true, decide_eq_true_eq, single, List.map_cons, List.toFinset_cons]
      constructor
      · intro found
        split at found
        case isTrue same =>
          cases found
          ext name
          simp only [Finset.mem_insert, List.mem_toFinset, Finset.mem_singleton]
          exact ⟨fun either => either.elim id (same name), .inl⟩
        case isFalse => cases found
      · intro names
        have within : ∀ name, name = own ∨ name ∈ others.map Prod.fst → name = key :=
          fun name there => Finset.mem_singleton.mp (names ▸ by simpa using there)
        obtain rfl := within own (.inl rfl)
        exact if_pos fun name there => within name (.inr there)

theorem onlyKey?_congr {first second : Table}
    (same : (first.map Prod.fst).toFinset = (second.map Prod.fst).toFinset) :
    first.onlyKey? = second.onlyKey? :=
  Option.ext fun key => by rw [onlyKey?_eq_some, onlyKey?_eq_some, same]

end Table

/-- A text as it is, or what is taken for it. -/
def Kind.IsText (kind : Kind) (text : String) : Prop := kind = .string text ∨ kind = .scalar text

namespace Entry

variable {first second : Entry}

theorem cases_of_kind (same : first.kind = second.kind) : first = second ∨
    (∃ origin items others, first = list origin items ∧ second = list origin others) ∨
      ∃ fields others, first = table fields ∧ second = table others ∧
        (fields.map Prod.fst).toFinset = (others.map Prod.fst).toFinset := by
  cases first <;> cases second <;> simp_all [kind]

theorem text_congr (same : first.kind = second.kind) (setting : Setting) :
    first.text setting = second.text setting := by
  rcases cases_of_kind same with rfl | ⟨_, _, _, rfl, rfl⟩ | ⟨_, _, rfl, rfl, _⟩ <;> rfl

theorem format_congr (same : first.kind = second.kind) : first.format = second.format := by
  rcases cases_of_kind same with rfl | ⟨_, _, _, rfl, rfl⟩ | ⟨_, _, rfl, rfl, names⟩
  · rfl
  · rfl
  · rw [format, format, Table.onlyKey?_congr names]

theorem text_of_kind {entry : Entry} {text : String} (read : entry.kind.IsText text)
    (setting : Setting) : entry.text setting = .ok text := by
  rcases read with own | own
  · have same : entry.kind = (string text).kind := own
    exact text_congr same setting
  · have same : entry.kind = (scalar text).kind := own
    exact text_congr same setting

end Entry

namespace Table

variable {table other : Table} {setting : Setting} {order : Setting → Nat}

theorem cases_of_kind? (same : table.kind? setting.name = other.kind? setting.name) :
    (table.lookup setting.name = none ∧ other.lookup setting.name = none) ∨
      ∃ first second, table.lookup setting.name = some first ∧
        other.lookup setting.name = some second ∧ first.kind = second.kind := by
  unfold kind? at same
  cases one : table.lookup setting.name <;> cases two : other.lookup setting.name <;> simp_all

theorem text_congr (same : table.kind? setting.name = other.kind? setting.name) :
    table.text setting = other.text setting := by
  rcases cases_of_kind? same with ⟨one, two⟩ | ⟨first, second, one, two, alike⟩
  · rw [text, text, entry, entry, one, two]
  · rw [text, text, entry, entry, one, two]
    exact Entry.text_congr alike setting

theorem format_congr
    (same : table.kind? (Setting.name .format) = other.kind? (Setting.name .format)) :
    (table.entry .format >>= Entry.format) = (other.entry .format >>= Entry.format) := by
  rcases cases_of_kind? same with ⟨one, two⟩ | ⟨first, second, one, two, alike⟩
  · rw [entry, entry, one, two]
  · rw [entry, entry, one, two]
    exact Entry.format_congr alike

theorem forM_eq_ok {α : Type} {check : α → Except Mismatch Unit} {items : List α} :
    items.forM check = .ok () ↔ ∀ item ∈ items, check item = .ok () := by
  induction items with
  | nil => exact iff_of_true rfl (List.forall_mem_nil _)
  | cons item items ih =>
      rw [List.forall_mem_cons, ← ih]
      change (check item >>= fun _ => items.forM check) = .ok () ↔ _
      exact bind_eq_ok.trans ⟨fun ⟨_, own, rest⟩ => ⟨own, rest⟩, fun ⟨own, rest⟩ => ⟨(), own, rest⟩⟩

theorem entry_eq_ok {entry : Entry} :
    table.entry setting = .ok entry ↔ table.lookup setting.name = some entry := by
  unfold Table.entry
  cases table.lookup setting.name <;> simp

theorem check_of_text {text : String} (other : setting ≠ .format)
    (read : table.text setting = .ok text) : table.check setting = .ok () := by
  obtain ⟨entry, there, own⟩ := bind_eq_ok.mp read
  rw [check, entry_eq_ok.mp there]
  cases setting with
  | format => exact absurd rfl other
  | _ => exact congrArg (Except.map fun _ => ()) own

theorem check_of_format {format : Format}
    (named : (table.entry .format >>= Entry.format) = .ok format) :
    table.check .format = .ok () := by
  obtain ⟨entry, there, own⟩ := bind_eq_ok.mp named
  rw [check, entry_eq_ok.mp there]
  exact congrArg (Except.map fun _ => ()) own

theorem settings_eq_ok {texts : Setting → String} {format : Format}
    (read : ∀ setting, setting ≠ .format → table.text setting = .ok (texts setting))
    (named : (table.entry .format >>= Entry.format) = .ok format) (order : Setting → Nat) :
    table.settings order = .ok ⟨Text.encode (texts .input), Text.encode (texts .output),
      texts .marker, ⟨format, texts .listName⟩⟩ := by
  have checks : ∀ setting, table.check setting = .ok () := by
    intro setting
    by_cases own : setting = .format
    · exact own ▸ check_of_format named
    · exact check_of_text own (read setting own)
  have input : table.text .input = .ok (texts .input) := read .input (by decide)
  have output : table.text .output = .ok (texts .output) := read .output (by decide)
  have marker : table.text .marker = .ok (texts .marker) := read .marker (by decide)
  have listName : table.text .listName = .ok (texts .listName) := read .listName (by decide)
  obtain ⟨entry, there, own⟩ := bind_eq_ok.mp named
  rw [settings, forM_eq_ok.mpr fun setting _ => checks setting, input, output, marker, listName,
    there]
  simp only [bind, Except.bind, own]
  rfl

theorem text_of_kind? {text : String} {kind : Kind} (read : kind.IsText text)
    (found : table.kind? setting.name = some kind) : table.text setting = .ok text := by
  obtain ⟨entry, there, rfl⟩ := Option.map_eq_some_iff.mp found
  rw [Table.text, entry_eq_ok.mpr there]
  exact Entry.text_of_kind read setting

theorem format_of_kind? {name : String} {format : Format}
    (named : Format.ofName? (Text.lowerCase name) = some format)
    (found : table.kind? (Setting.name .format) = some (.string name)) :
    (table.entry .format >>= Entry.format) = .ok format := by
  obtain ⟨entry, there, own⟩ := Option.map_eq_some_iff.mp found
  have chosen : Format.ofAnyCase name = .ok format := by rw [Format.ofAnyCase, named]
  rw [entry_eq_ok.mpr there]
  have same : entry.kind = (Entry.string name).kind := own
  exact (Entry.format_congr same).trans chosen

theorem kind?_put (table : Table) (name other : String) (entry : Entry) :
    (table.put name entry).kind? other =
      if other = name then some entry.kind else table.kind? other := by
  unfold kind?
  split
  case isTrue same => rw [same, lookup_put_self, Option.map_some]
  case isFalse apart => rw [lookup_put_of_ne table entry apart]

end Table

theorem Setting.name_injective : Function.Injective name := by
  intro first second same
  cases first <;> cases second <;> first | rfl | exact absurd same (by decide)

theorem Setting.mem_all (setting : Setting) : setting ∈ all := by cases setting <;> decide

namespace Overrides

variable {overrides : Overrides}

theorem kind?_replaceIn (overrides : Overrides) (table : Table) (setting : Setting) :
    (overrides.replaceIn table).kind? setting.name =
      (overrides.text setting).elim (table.kind? setting.name) fun text => some (.string text) := by
  have one (table : Table) (own : Setting) : (overrides.replaceOne table own).kind? setting.name =
      if setting = own then
        (overrides.text setting).elim (table.kind? setting.name) fun text => some (.string text)
      else table.kind? setting.name := by
    unfold replaceOne
    by_cases same : setting = own
    · subst same
      cases overrides.text setting <;> simp [Table.kind?_put, Entry.kind]
    · have apart : setting.name ≠ own.name := mt (@Setting.name_injective _ _) same
      cases overrides.text own <;> simp [same, Table.kind?_put, apart]
  have steps (settings : List Setting) (table : Table) :
      (settings.foldl overrides.replaceOne table).kind? setting.name =
        if setting ∈ settings then
          (overrides.text setting).elim (table.kind? setting.name) fun text => some (.string text)
        else table.kind? setting.name := by
    induction settings generalizing table with
    | nil => rfl
    | cons first settings ih =>
        rw [List.foldl_cons, ih, one]
        by_cases here : setting = first
        · cases overrides.text setting <;> simp [here]
        · simp [here]
  rw [replaceIn, steps, if_pos setting.mem_all]

end Overrides

end KeywordHarvest
