import KeywordHarvest.Proofs.Settings.Document
import KeywordHarvest.Proofs.Settings.Settled
import KeywordHarvest.Proofs.Text.LowerCase

/-! Which setting a key of a document concerns, and what documents come to. Where no document
mentions a setting twice, and keys that lead to parts of values are in lower case and count no
element from the end, every document changes a setting by its one mention, whatever its other keys
hold and whatever order they come in. -/

namespace KeywordHarvest

/-- The setting that a top-level key concerns, by the first name of its address in lower case. -/
def Setting.ofKey? (key : String) : Option Setting :=
  ofName? (Text.lowerCase (Address.ofKey key).name)

theorem Setting.ofName?_eq_some {name : String} {setting : Setting} :
    ofName? name = some setting ↔ name = setting.name := by
  constructor
  · intro named
    unfold ofName? at named
    split at named <;> cases named <;> rfl
  · rintro rfl
    exact ofName?_name setting

instance Setting.decidableForall (holds : Setting → Prop) [DecidablePred holds] :
    Decidable (∀ setting, holds setting) :=
  decidable_of_iff
    (holds .input ∧ holds .output ∧ holds .marker ∧ holds .listName ∧ holds .format)
    ⟨fun ⟨first, second, third, fourth, fifth⟩ setting => by cases setting <;> assumption,
      fun all => ⟨all .input, all .output, all .marker, all .listName, all .format⟩⟩

def Address.isPlain (key : String) : Bool := (ofKey key).steps = []

/-- A key that leads to a part of a value, as it is or in lower case, is in lower case. -/
def Address.IsSpelled (key : String) : Prop :=
  (isPlain key && isPlain (Text.lowerCase key)) = false → Text.lowerCase key = key

instance : DecidablePred Address.IsSpelled := fun _ => inferInstanceAs (Decidable (_ → _))

namespace Toml

def Value.isEmptyTable : Value → Bool
  | .table _ [] => true
  | _ => false

def Value.plainText? : Value → Option String
  | .string text => some text
  | .integer value => some (toString value)
  | .float value => some value.text
  | .boolean value => some (if value then "true" else "false")
  | .moment value => some value.text
  | .array _ => none
  | .table _ _ => none
  | .tables _ _ => none

/-- An empty table under a plain key is no mention. -/
def mentions (setting : Setting) (field : String × Value) : Bool :=
  Setting.ofKey? field.1 = some setting && !(Address.isPlain field.1 && field.2.isEmptyTable)

namespace Fields

def Unambiguous (fields : Fields) : Prop :=
  fields.Pairwise fun field other => ∀ setting,
    mentions setting field → mentions setting other = false

def LowerCasePaths (fields : Fields) : Prop := ∀ field ∈ fields, Address.IsSpelled field.1

def IsForward (fields : Fields) : Prop :=
  ∀ field ∈ fields, (Address.ofKey field.1).IsForward ∧
    (Address.ofKey (Text.lowerCase field.1)).IsForward

instance (fields : Fields) : Decidable fields.Unambiguous :=
  inferInstanceAs (Decidable (List.Pairwise _ fields))

instance (fields : Fields) : Decidable fields.LowerCasePaths :=
  inferInstanceAs (Decidable (∀ field ∈ fields, Address.IsSpelled field.1))

instance (fields : Fields) : Decidable fields.IsForward :=
  inferInstanceAs (Decidable (∀ field ∈ fields, _))

end Fields

end Toml

open Toml (mentions)

namespace Address

variable {key : String}

theorem isForward_target {address : Address} (forward : address.IsForward) :
    address.target.IsForward := by
  obtain ⟨name, steps⟩ := address
  have last : ∀ steps : List Step, (∀ step ∈ steps, step.IsForward) →
      ∀ step ∈ lowerLast steps, step.IsForward := by
    intro steps forward
    induction steps using lowerLast.induct with
    | case1 => exact forward
    | case2 name => simp [lowerLast, Step.IsForward]
    | case3 step steps _ ih =>
        obtain ⟨own, others⟩ := List.forall_mem_cons.mp forward
        rw [lowerLast.eq_3 step steps (by assumption)]
        exact List.forall_mem_cons.mpr ⟨own, ih others⟩
  cases steps with
  | nil => exact forward
  | cons step steps => exact last _ forward

theorem eq_nil_of_steps? {cs : List Char} (stays : steps? cs = some []) : cs = [] := by
  unfold steps? at stays
  split at stays
  · rfl
  · dsimp only at stays
    split at stays
    · cases stays
    · simp at stays
  · split at stays
    · cases stays
    · simp at stays
  · cases stays

theorem name_of_plain (plain : isPlain key) : (ofKey key).name = key := by
  have whole : (ofKey key).steps = [] := of_decide_eq_true plain
  unfold ofKey at whole ⊢
  dsimp only at whole ⊢
  split
  · rename_i steps found
    split
    · rfl
    · rename_i present
      simp only [found, present, if_false] at whole
      subst whole
      have blank : key.toList.dropWhile isNameChar = [] := eq_nil_of_steps? found
      have all : key.toList.takeWhile isNameChar ++ key.toList.dropWhile isNameChar = key.toList :=
        List.takeWhile_append_dropWhile
      rw [blank, List.append_nil] at all
      rw [all, String.ofList_toList]
  · rfl

theorem target_of_plain (plain : isPlain key) : targetOf key = ⟨Text.lowerCase key, []⟩ := by
  have whole : (ofKey key).steps = [] := of_decide_eq_true plain
  rw [targetOf, target, whole]
  simp only [name_of_plain plain]

theorem target_of_path (path : isPlain key = false) :
    targetOf key = ⟨(ofKey key).name, lowerLast (ofKey key).steps⟩ := by
  have leads : (ofKey key).steps ≠ [] := by simpa [isPlain] using path
  rw [targetOf, target]
  split
  · contradiction
  · rfl

theorem lowerLast_ne_nil {steps : List Step} (leads : steps ≠ []) : lowerLast steps ≠ [] := by
  match steps, leads with
  | [.part name], _ => simp [lowerLast]
  | [.element index], _ => simp [lowerLast]
  | first :: second :: rest, _ => simp [lowerLast]

theorem name_of_spelled (spelled : IsSpelled key) :
    (targetOf key).name = Text.lowerCase (ofKey key).name := by
  cases plain : isPlain key with
  | true => rw [target_of_plain plain, name_of_plain plain]
  | false =>
      have leads : (ofKey key).steps ≠ [] := by simpa [isPlain] using plain
      rw [target_of_path plain, lowerCase_name leads (spelled (by simp [plain]))]

theorem isForward_targetOf_name (small : (ofKey (Text.lowerCase key)).IsForward) :
    (targetOf (targetOf key).name).IsForward := by
  cases plain : isPlain key with
  | true =>
      rw [target_of_plain plain]
      exact isForward_target small
  | false =>
      have leads : (ofKey key).steps ≠ [] := by simpa [isPlain] using plain
      rw [target_of_path plain, targetOf, ofKey_name leads]
      exact isForward_target (List.forall_mem_nil _)

theorem target_of_spelled (spelled : IsSpelled key) :
    targetOf (targetOf key).name = ⟨(targetOf key).name, []⟩ := by
  cases plain : isPlain key with
  | true =>
      have small : isPlain (Text.lowerCase key) := by
        by_contra path
        rw [Bool.not_eq_true] at path
        rw [spelled (by simp [path]), plain] at path
        cases path
      rw [target_of_plain plain, target_of_plain small, Text.lowerCase_lowerCase]
  | false =>
      have leads : (ofKey key).steps ≠ [] := by simpa [isPlain] using plain
      have own : isPlain (ofKey key).name := by rw [isPlain, ofKey_name leads]; rfl
      rw [target_of_path plain, target_of_plain own,
        lowerCase_name leads (spelled (by simp [plain]))]

end Address

theorem Entry.ofFields_eq_map (origin : String) (fields : Toml.Fields) :
    ofFields origin fields = fields.map fun field => (field.1, ofValue origin field.2) := by
  induction fields with
  | nil => rfl
  | cons field fields ih => rw [ofFields, ih, List.map_cons]

theorem Entry.change?_ofValue_eq_none {origin : String} {value : Toml.Value} :
    (ofValue origin value).change? = none ↔ value.isEmptyTable = true := by
  cases value with
  | table form fields => cases fields <;> simp [ofValue, ofFields, change?, Toml.Value.isEmptyTable]
  | _ => simp [ofValue, change?, Toml.Value.isEmptyTable]

namespace Layer

variable {setting : Setting} {document : Document} {documents : List Document}

def Document.change? (setting : Setting) (document : Document) : Option Change :=
  (document.fields.find? (mentions setting)).bind fun field =>
    Change.ofField? (field.1, Entry.ofValue document.origin field.2)

structure Document.IsTidy (document : Document) : Prop where
  apart : document.fields.Unambiguous
  spelled : document.fields.LowerCasePaths
  forward : document.fields.IsForward

instance (document : Document) : Decidable document.IsTidy :=
  decidable_of_iff (document.fields.Unambiguous ∧ document.fields.LowerCasePaths ∧
      document.fields.IsForward)
    ⟨fun ⟨apart, spelled, forward⟩ => ⟨apart, spelled, forward⟩,
      fun ⟨apart, spelled, forward⟩ => ⟨apart, spelled, forward⟩⟩

theorem concerns_iff_mentions {field : String × Toml.Value} (origin : String)
    (spelled : Address.IsSpelled field.1) :
    (Address.targetOf field.1).name = setting.name ∧
        Change.ofField? (field.1, Entry.ofValue origin field.2) ≠ none ↔
      mentions setting field = true := by
  have concerned : (Address.targetOf field.1).name = setting.name ↔
      Setting.ofKey? field.1 = some setting := by
    rw [Address.name_of_spelled spelled, Setting.ofKey?, Setting.ofName?_eq_some]
  have silent : Change.ofField? (field.1, Entry.ofValue origin field.2) = none ↔
      (Address.isPlain field.1 && field.2.isEmptyTable) = true := by
    rw [Change.ofField?]
    cases plain : Address.isPlain field.1 with
    | true => simp [Address.target_of_plain plain, Entry.change?_ofValue_eq_none]
    | false =>
        have leads : (Address.ofKey field.1).steps ≠ [] := by simpa [Address.isPlain] using plain
        rw [Address.target_of_path plain]
        cases steps : Address.lowerLast (Address.ofKey field.1).steps with
        | nil => exact absurd steps (Address.lowerLast_ne_nil leads)
        | cons step steps => cases step <;> simp
  rw [concerned, Ne, silent]
  cases empty : Address.isPlain field.1 && field.2.isEmptyTable <;> simp [mentions, empty]

theorem filterMap_eq_find? {α β : Type} {holds : α → Bool} {image : α → Option β} {items : List α}
    (apart : items.Pairwise fun first second => holds first → holds second = false)
    (agree : ∀ item ∈ items, image item ≠ none ↔ holds item = true) :
    items.filterMap image = ((items.find? holds).bind image).toList := by
  induction items with
  | nil => rfl
  | cons item items ih =>
      obtain ⟨own, others⟩ := List.forall_mem_cons.mp agree
      obtain ⟨alone, rest⟩ := List.pairwise_cons.mp apart
      cases held : holds item with
      | false =>
          have silent : image item = none := by simpa [held] using own
          rw [List.filterMap_cons, silent, List.find?_cons, held]
          exact ih rest others
      | true =>
          obtain ⟨result, found⟩ := Option.ne_none_iff_exists'.mp (own.mpr held)
          have later : items.filterMap image = [] := by
            refine List.filterMap_eq_nil_iff.mpr fun other among => ?_
            have unheld := alone other among held
            simpa [unheld] using others other among
          rw [List.filterMap_cons, found, List.find?_cons, held, Option.bind_some, found, later]
          rfl

/-- Where only one key mentions a setting, that mention is all that the document changes of it. -/
theorem Document.changes_table (tidy : document.IsTidy) (setting : Setting) :
    document.table.changes setting.name = (document.change? setting).toList := by
  have apart : document.fields.Pairwise fun field other =>
      mentions setting field → mentions setting other = false :=
    tidy.apart.imp fun alone => alone setting
  let image (field : String × Toml.Value) : Option Change :=
    if (Address.targetOf field.1).name = setting.name then
      Change.ofField? (field.1, Entry.ofValue document.origin field.2) else none
  have agree : ∀ field ∈ document.fields, image field ≠ none ↔ mentions setting field = true := by
    intro field among
    rw [← concerns_iff_mentions document.origin (tidy.spelled field among)]
    by_cases own : (Address.targetOf field.1).name = setting.name <;> simp [image, own]
  have images : document.table.changes setting.name = document.fields.filterMap image := by
    rw [table, Table.changes, Entry.ofFields_eq_map, List.filter_map, List.filterMap_map,
      List.filterMap_filter]
    simp only [Function.comp_apply, decide_eq_true_eq, image]
  rw [images, filterMap_eq_find? apart agree, change?]
  cases found : document.fields.find? (mentions setting) with
  | none => rfl
  | some field =>
      have own := (concerns_iff_mentions document.origin
        (tidy.spelled field (List.mem_of_find?_eq_some found))).mpr (List.find?_some found)
      simp [image, own.1]

def kindAt (setting : Setting) (documents : List Document) : Kind :=
  (documents.filterMap (·.change? setting)).foldl (fun kind next => next.apply kind)
    (.string setting.standard)

variable {order : Order} {table after : Table}

theorem kind?_merge_writesFrom (tidy : ∀ document ∈ documents, document.IsTidy) {number : Nat}
    {kind : Kind} (merged : merge (writesFrom order number (documents.map Document.table)) table =
      .ok after) (present : table.kind? setting.name = some kind) :
    after.kind? setting.name =
      some ((documents.filterMap (·.change? setting)).foldl (fun kind next => next.apply kind)
        kind) := by
  induction documents generalizing number table kind with
  | nil =>
      cases merged
      exact present
  | cons document documents ih =>
      obtain ⟨own, others⟩ := List.forall_mem_cons.mp tidy
      rw [List.map_cons, writesFrom, merge_append] at merged
      obtain ⟨between, first, rest⟩ := bind_eq_ok.mp merged
      have changes := document.changes_table own setting
      have single : (document.table.changes setting.name).length ≤ 1 := by
        rw [changes]
        exact Option.length_toList_le
      rw [ih others rest (Table.kind?_merge_writes first present single), changes,
        List.filterMap_cons]
      cases document.change? setting <;> rfl

theorem mem_writesFrom {number : Nat} {write : Write}
    (among : write ∈ writesFrom order number (documents.map Document.table)) :
    ∃ document ∈ documents, ∃ rank, write ∈ document.table.writes rank := by
  induction documents generalizing number with
  | nil => cases among
  | cons document documents ih =>
      rcases List.mem_append.mp among with first | later
      · exact ⟨document, List.mem_cons_self, _, first⟩
      · obtain ⟨other, there, rank, inside⟩ := ih later
        exact ⟨other, List.mem_cons_of_mem document there, rank, inside⟩

theorem exists_field_of_mem_table {field : String × Entry} (among : field ∈ document.table) :
    ∃ own ∈ document.fields, own.1 = field.1 := by
  rw [Document.table, Entry.ofFields_eq_map] at among
  obtain ⟨own, there, rfl⟩ := List.mem_map.mp among
  exact ⟨own, there, rfl⟩

theorem exists_merge_writesFrom (forward : ∀ document ∈ documents, document.fields.IsForward)
    (order : Order) (number : Nat) (table : Table) :
    ∃ after, merge (writesFrom order number (documents.map Document.table)) table = .ok after := by
  refine merge_of_forward (fun write among => ?_) table
  obtain ⟨document, member, rank, inside⟩ := mem_writesFrom among
  refine Table.isForward_of_mem_writes (fun field there => ?_) inside
  obtain ⟨own, here, same⟩ := exists_field_of_mem_table there
  exact same ▸ Address.isForward_target (forward document member own here).1

theorem forall_names_of_merge {holds : String → Prop} (keys : ∀ document ∈ documents,
      ∀ field ∈ document.fields, holds (Address.targetOf field.1).name) {number : Nat}
    (merged : merge (writesFrom order number (documents.map Document.table)) table = .ok after)
    (before : ∀ name ∈ table.map Prod.fst, holds name) :
    ∀ name ∈ after.map Prod.fst, holds name := by
  intro name there
  rcases mem_names_of_merge merged there with old | ⟨write, among, rfl⟩
  · exact before name old
  · obtain ⟨document, member, rank, inside⟩ := mem_writesFrom among
    obtain ⟨field, arranged, inside⟩ := List.mem_flatMap.mp inside
    obtain ⟨own, here, same⟩ := exists_field_of_mem_table ((mem_arrange _).mp arranged)
    rw [Table.name_of_mem_fieldWrites inside, ← same]
    exact keys document member own here

theorem isSettled_of_merge (spelled : ∀ document ∈ documents, document.fields.LowerCasePaths)
    {number : Nat} (merged : merge (writesFrom order number (documents.map Document.table)) table =
      .ok after) (settled : table.IsSettled) : after.IsSettled :=
  forall_names_of_merge (fun document member own here =>
    Address.target_of_spelled (spelled document member own here)) merged settled

end Layer

namespace Table

theorem isSettled_standard : standard.IsSettled := by
  have settled : ∀ setting : Setting, Address.targetOf setting.name = ⟨setting.name, []⟩ := by
    decide +kernel
  intro name there
  obtain ⟨field, among, rfl⟩ := List.mem_map.mp there
  obtain ⟨setting, _, rfl⟩ := List.mem_map.mp among
  exact settled setting

theorem nodup_standard : (standard.map Prod.fst).Nodup := by decide

theorem kind?_standard (setting : Setting) :
    standard.kind? setting.name = some (.string setting.standard) := by
  cases setting <;> rfl

end Table

namespace Settings

open Layer (Document)

variable {host : Host} {documents : List Document} {table : Table}

theorem exists_merges (forward : ∀ document ∈ documents, document.fields.IsForward) (host : Host) :
    ∃ table, Merges host documents table := by
  obtain ⟨first, once⟩ := Layer.exists_merge_writesFrom forward host.order 0 Table.standard
  have ahead : ∀ name ∈ first.map Prod.fst, (Address.targetOf name).IsForward := by
    refine Layer.forall_names_of_merge (fun document member own here => ?_) once
      fun name there => ?_
    · exact Address.isForward_targetOf_name (forward document member own here).2
    · rw [Table.isSettled_standard name there]
      exact List.forall_mem_nil _
  obtain ⟨table, again⟩ := merge_of_forward (fun write among => Table.isForward_of_mem_writes
    (fun field there => ahead field.1 (List.mem_map_of_mem there)) among) []
  exact ⟨table, first, once, again⟩

theorem Merges.kind? (spelled : ∀ document ∈ documents, document.fields.LowerCasePaths)
    (merges : Merges host documents table) :
    ∃ first, merge (writesFrom host.order 0 (documents.map Document.table)) Table.standard =
        .ok first ∧ ∀ name, table.kind? name = (first.kind? name).map Kind.lower := by
  obtain ⟨first, once, again⟩ := merges
  have settled := Layer.isSettled_of_merge spelled once Table.isSettled_standard
  exact ⟨first, once, settled.kind?_merge_writes (nodup_merge Table.nodup_standard once) again⟩

theorem Merges.kind?_of_tidy (tidy : ∀ document ∈ documents, document.IsTidy)
    (merges : Merges host documents table) (setting : Setting) :
    table.kind? setting.name = some (Layer.kindAt setting documents).lower := by
  obtain ⟨first, once, same⟩ := merges.kind? fun document member => (tidy document member).spelled
  rw [same, Layer.kind?_merge_writesFrom tidy once (Table.kind?_standard setting)]
  rfl

end Settings

end KeywordHarvest
