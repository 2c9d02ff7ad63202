import KeywordHarvest.Proofs.Settings.Table
import KeywordHarvest.Settings.Reading
import Mathlib.Data.Finset.Union

/-! Entries by their kind. Of a list its file counts and of a table its keys, and not what is inside
them. What a write makes of the kind of an entry depends on that kind alone, so kinds can be followed
through a merge without the entries; and the settings are read from kinds. -/

namespace KeywordHarvest

inductive Kind
  | nothing
  | string (text : String)
  | scalar (text : String)
  | list (origin : Option String)
  | table (names : Finset String)
  deriving DecidableEq

def Entry.kind : Entry → Kind
  | .nothing => .nothing
  | .string text => .string text
  | .scalar text => .scalar text
  | .list origin _ => .list origin
  | .table fields => .table (fields.map Prod.fst).toFinset

namespace Kind

def names : Kind → Finset String
  | table names => names
  | _ => ∅

def listOrigin : Kind → Option String
  | list origin => origin
  | _ => none

theorem names_kind (entry : Entry) : entry.kind.names = (entry.fields.map Prod.fst).toFinset := by
  cases entry <;> rfl

theorem listOrigin_kind (entry : Entry) : entry.kind.listOrigin = entry.listOrigin := by
  cases entry <;> rfl

end Kind

def Table.kind? (table : Table) (name : String) : Option Kind := (table.lookup name).map Entry.kind

def Kind.namesIn (old : Option Kind) : Finset String := (old.map names).getD ∅

/-- What is made of an entry to take one step into it. -/
def Address.Step.kindAfter (step : Address.Step) (old : Option Kind) : Kind :=
  match step with
  | .part name => .table (insert name (Kind.namesIn old))
  | .element _ => .list (old.bind Kind.listOrigin)

/-- The kind of the entry under the first name of the address, once a write is made. -/
def Write.kindAfter (write : Write) (old : Option Kind) : Kind :=
  match write.address.steps, write.action with
  | [], .put entry => entry.kind
  | [], .touch => old.getD (.table ∅)
  | step :: _, _ => step.kindAfter old

def kindsAfter (writes : List Write) (old : Option Kind) : Option Kind :=
  writes.foldl (fun old write => some (write.kindAfter old)) old

theorem Table.toFinset_put (table : Table) (name : String) (entry : Entry) :
    ((table.put name entry).map Prod.fst).toFinset =
      insert name (table.map Prod.fst).toFinset := by
  ext other
  rw [map_fst_put]
  split <;> simp_all

theorem Write.kind_alter {write : Write} {old : Option Entry} {entry : Entry}
    (altered : alter write.action write.address.steps old = .ok entry) :
    entry.kind = write.kindAfter (old.map Entry.kind) := by
  obtain ⟨⟨name, steps⟩, action⟩ := write
  cases steps with
  | nil =>
      cases altered
      cases action with
      | put entry => rfl
      | touch => cases old <;> rfl
  | cons step steps =>
      cases step with
      | part part =>
          obtain ⟨inner, _, same⟩ := bind_eq_ok.mp altered
          cases same
          refine congrArg Kind.table ((Table.toFinset_put _ _ _).trans ?_)
          cases old with
          | none => rfl
          | some entry => exact congrArg (insert part) (Kind.names_kind entry).symm
      | element index =>
          obtain ⟨position, _, rest⟩ := bind_eq_ok.mp altered
          obtain ⟨inner, _, same⟩ := bind_eq_ok.mp rest
          cases same
          cases old with
          | none => rfl
          | some entry => exact congrArg Kind.list (Kind.listOrigin_kind entry).symm

theorem kind?_merge {writes : List Write} {table after : Table}
    (merged : merge writes table = .ok after) (name : String) :
    after.kind? name =
      kindsAfter (writes.filter (·.address.name = name)) (table.kind? name) := by
  induction writes generalizing table with
  | nil =>
      cases merged
      rfl
  | cons write writes ih =>
      rw [merge_cons] at merged
      obtain ⟨between, applied, merged⟩ := bind_eq_ok.mp merged
      obtain ⟨entry, altered, rfl⟩ := Write.apply_eq_ok.mp applied
      rw [ih merged, List.filter_cons]
      by_cases here : write.address.name = name
      · subst here
        simp only [decide_true, if_true, kindsAfter, List.foldl_cons]
        rw [Table.kind?, Table.lookup_put_self, Option.map_some, Write.kind_alter altered,
          Table.kind?]
      · simp only [here, decide_false, Bool.false_eq_true, if_false]
        rw [Table.kind?, Table.kind?, Table.lookup_put_of_ne _ _ (Ne.symm here)]

theorem kindsAfter_append (first second : List Write) (old : Option Kind) :
    kindsAfter (first ++ second) old = kindsAfter second (kindsAfter first old) :=
  List.foldl_append

theorem exists_kindsAfter (writes : List Write) (kind : Kind) :
    ∃ after, kindsAfter writes (some kind) = some after := by
  induction writes generalizing kind with
  | nil => exact ⟨kind, rfl⟩
  | cons write writes ih => exact ih (write.kindAfter (some kind))

theorem Address.Step.kindAfter_self (step : Address.Step) (old : Option Kind) :
    step.kindAfter (some (step.kindAfter old)) = step.kindAfter old := by
  cases step with
  | part name => exact congrArg Kind.table (Finset.insert_idem name _)
  | element index => rfl

theorem kindsAfter_of_step {step : Address.Step} {writes : List Write} (present : writes ≠ [])
    (start : ∀ write ∈ writes, ∃ steps, write.address.steps = step :: steps) (old : Option Kind) :
    kindsAfter writes old = some (step.kindAfter old) := by
  induction writes generalizing old with
  | nil => exact absurd rfl present
  | cons write writes ih =>
      obtain ⟨⟨steps, own⟩, others⟩ := List.forall_mem_cons.mp start
      have first : write.kindAfter old = step.kindAfter old := by rw [Write.kindAfter, own]
      change kindsAfter writes (some (write.kindAfter old)) = _
      rw [first]
      cases writes with
      | nil => rfl
      | cons next writes => rw [ih (List.cons_ne_nil next writes) others, step.kindAfter_self]

namespace Entry

variable {rank : Rank} {keys : List String} {address : Address} {write : Write}

theorem partWrites_eq_map (rank : Rank) (keys : List String) (address : Address) (fields : Table) :
    partWrites rank keys address fields = fields.map fun field =>
      (field.1, field.2.writes rank (keys ++ [field.1])
        (address.descend (Text.lowerCase field.1))) := by
  induction fields with
  | nil => rfl
  | cons field fields ih => rw [partWrites, ih, List.map_cons]

theorem writes_ne_nil (entry : Entry) : entry.writes rank keys address ≠ [] := by
  cases entry <;> simp [writes]

mutual

theorem address_of_mem_writes (keys : List String) (address : Address) :
    ∀ (entry : Entry) (write : Write), write ∈ entry.writes rank keys address →
      ∃ names : List String,
        write.address = ⟨address.name, address.steps ++ names.map .part⟩
  | .table fields, write, among => by
      rw [writes, List.mem_cons, List.mem_flatMap] at among
      rcases among with rfl | ⟨part, arranged, own⟩
      · exact ⟨[], by simp⟩
      · rw [mem_arrange] at arranged
        obtain ⟨names, leads⟩ :=
          address_of_mem_partWrites keys address fields part arranged write own
        exact ⟨_, leads⟩
  | .nothing, write, among => by
      cases List.mem_singleton.mp among
      exact ⟨[], by simp⟩
  | .string text, write, among => by
      cases List.mem_singleton.mp among
      exact ⟨[], by simp⟩
  | .scalar text, write, among => by
      cases List.mem_singleton.mp among
      exact ⟨[], by simp⟩
  | .list origin items, write, among => by
      cases List.mem_singleton.mp among
      exact ⟨[], by simp⟩

theorem address_of_mem_partWrites (keys : List String) (address : Address) :
    ∀ (fields : List (String × Entry)) (part : String × List Write),
      part ∈ partWrites rank keys address fields → ∀ write ∈ part.2, ∃ names : List String,
        write.address =
          ⟨address.name, address.steps ++ (Text.lowerCase part.1 :: names).map .part⟩
  | (key, entry) :: fields, part, among, write, own => by
      rw [partWrites, List.mem_cons] at among
      rcases among with rfl | later
      · obtain ⟨names, leads⟩ := address_of_mem_writes (keys ++ [key])
          (address.descend (Text.lowerCase key)) entry write own
        exact ⟨names, by simp [leads, Address.descend]⟩
      · exact address_of_mem_partWrites keys address fields part later write own

end

/-- An entry that is no table is put, and a table adds its keys, if it has any. -/
def kindOver (entry : Entry) (old : Option Kind) : Kind :=
  match entry with
  | .table [] => old.getD (.table ∅)
  | .table fields =>
      .table ((fields.map (Text.lowerCase ·.1)).toFinset ∪ Kind.namesIn old)
  | entry => entry.kind

theorem kindsAfter_parts {parts : List (String × List Write)}
    (present : ∀ part ∈ parts, part.2 ≠ [])
    (start : ∀ part ∈ parts, ∀ write ∈ part.2,
      ∃ steps, write.address.steps = .part (Text.lowerCase part.1) :: steps) (old : Option Kind) :
    kindsAfter (parts.flatMap (·.2)) old =
      if parts = [] then old
      else some (.table ((parts.map (Text.lowerCase ·.1)).toFinset ∪ Kind.namesIn old)) := by
  induction parts generalizing old with
  | nil => rfl
  | cons part parts ih =>
      obtain ⟨first, others⟩ := List.forall_mem_cons.mp present
      obtain ⟨own, rest⟩ := List.forall_mem_cons.mp start
      rw [List.flatMap_cons, kindsAfter_append, kindsAfter_of_step first own, ih others rest,
        if_neg (List.cons_ne_nil part parts)]
      have added : Kind.namesIn (some (Address.Step.kindAfter
          (.part (Text.lowerCase part.1)) old)) =
            insert (Text.lowerCase part.1) (Kind.namesIn old) := rfl
      rw [added, List.map_cons, List.toFinset_cons, Finset.union_insert, Finset.insert_union]
      split
      case isTrue last =>
        subst last
        simp [Address.Step.kindAfter]
      case isFalse => rfl

theorem kindsAfter_writes (entry : Entry) (name : String) (old : Option Kind) :
    kindsAfter (entry.writes rank keys ⟨name, []⟩) old = some (entry.kindOver old) := by
  cases entry with
  | table fields =>
      have present : ∀ part ∈ arrange (rank keys ·.1) (partWrites rank keys ⟨name, []⟩ fields),
          part.2 ≠ [] := by
        simp only [mem_arrange, partWrites_eq_map, List.forall_mem_map]
        exact fun field _ => writes_ne_nil field.2
      have start : ∀ part ∈ arrange (rank keys ·.1) (partWrites rank keys ⟨name, []⟩ fields),
          ∀ write ∈ part.2,
            ∃ steps, write.address.steps = .part (Text.lowerCase part.1) :: steps := by
        simp only [mem_arrange]
        intro part among write own
        obtain ⟨names, leads⟩ := address_of_mem_partWrites keys _ fields part among write own
        exact ⟨_, by rw [leads]; rfl⟩
      have perm := arrange_perm (rank keys ·.1) (partWrites rank keys ⟨name, []⟩ fields)
      have lowered : ((arrange (rank keys ·.1) (partWrites rank keys ⟨name, []⟩ fields)).map
          (Text.lowerCase ·.1)).toFinset = (fields.map (Text.lowerCase ·.1)).toFinset := by
        rw [List.toFinset_eq_of_perm _ _ (perm.map _), partWrites_eq_map, List.map_map]
        rfl
      have blank : arrange (rank keys ·.1) (partWrites rank keys ⟨name, []⟩ fields) = [] ↔
          fields = [] := by
        rw [← List.isEmpty_iff, ← List.isEmpty_iff, perm.isEmpty_eq, partWrites_eq_map,
          List.isEmpty_map]
      change kindsAfter _ (some (old.getD (.table ∅))) = _
      rw [kindsAfter_parts present start, lowered]
      cases fields with
      | nil => rw [if_pos (blank.mpr rfl)]; rfl
      | cons field fields =>
          rw [if_neg (mt blank.mp (List.cons_ne_nil field fields))]
          cases old <;> rfl
  | _ => rfl

end Entry

end KeywordHarvest
