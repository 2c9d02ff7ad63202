import KeywordHarvest.Proofs.Result
import KeywordHarvest.Settings.Entry
import Mathlib.Data.List.Sort

/-! Merging into a table, name by name. A write changes what stands under the first name of its
address and nothing else, so the part of a table under some names comes from the writes to these
names alone. Writes without negative indices never crash. -/

namespace KeywordHarvest

section Arranging

variable {α : Type} (rank : α → Nat)

theorem arrange_eq_insertionSort (items : List α) :
    arrange rank items = items.insertionSort (rank · ≤ rank ·) := by
  have inserted (item : α) (others : List α) :
      place rank item others = others.orderedInsert (rank · ≤ rank ·) item := by
    induction others with
    | nil => rfl
    | cons other others ih => rw [place, List.orderedInsert_cons, ih]
  induction items with
  | nil => rfl
  | cons item items ih =>
      rw [List.insertionSort_cons, ← ih, ← inserted]
      rfl

theorem arrange_perm (items : List α) : (arrange rank items).Perm items :=
  arrange_eq_insertionSort rank items ▸ List.perm_insertionSort _ _

@[simp] theorem mem_arrange {item : α} {items : List α} :
    item ∈ arrange rank items ↔ item ∈ items :=
  (arrange_perm rank items).mem_iff

theorem place_filter (keep : α → Bool) (item : α) {items : List α}
    (sorted : items.Pairwise (rank · ≤ rank ·)) :
    (place rank item items).filter keep =
      if keep item then place rank item (items.filter keep) else items.filter keep := by
  induction items with
  | nil => cases kept : keep item <;> simp [place, kept]
  | cons other others ih =>
      obtain ⟨below, rest⟩ := List.pairwise_cons.mp sorted
      by_cases first : rank item ≤ rank other
      · -- Nothing after the place is of a smaller rank, so the item comes first among what is kept.
        have front : place rank item ((other :: others).filter keep) =
            item :: (other :: others).filter keep := by
          cases left : (other :: others).filter keep with
          | nil => rfl
          | cons next more =>
              have among : next ∈ other :: others :=
                (List.mem_filter.mp (left ▸ List.mem_cons_self)).1
              have above : rank item ≤ rank next := by
                rcases List.mem_cons.mp among with rfl | later
                · exact first
                · exact Nat.le_trans first (below next later)
              rw [place, if_pos above]
        rw [place, if_pos first, front]
        cases kept : keep item <;> simp [List.filter_cons, kept]
      · rw [place, if_neg first, List.filter_cons, List.filter_cons, ih rest]
        cases keep other <;> cases keep item <;> simp [place, first]

theorem arrange_filter (keep : α → Bool) (items : List α) :
    (arrange rank items).filter keep = arrange rank (items.filter keep) := by
  induction items with
  | nil => rfl
  | cons item items ih =>
      have sorted : (arrange rank items).Pairwise (rank · ≤ rank ·) := by
        have total : Std.Total (fun first second : α => rank first ≤ rank second) :=
          ⟨fun first second => Nat.le_total _ _⟩
        have trans : IsTrans α (fun first second => rank first ≤ rank second) :=
          ⟨fun _ _ _ => Nat.le_trans⟩
        rw [arrange_eq_insertionSort]
        exact List.pairwise_insertionSort _ items
      change (place rank item (arrange rank items)).filter keep = _
      rw [place_filter rank keep item sorted, ih]
      cases kept : keep item <;> simp [kept, arrange]

end Arranging

namespace Table

variable {table : Table} {name other : String}

theorem lookup_cons_of_ne {key : String} (entry : Entry) (apart : other ≠ key) :
    List.lookup other ((key, entry) :: table) = table.lookup other := by
  rw [List.lookup_cons, beq_eq_false_iff_ne.mpr apart]

theorem lookup_put_self (table : Table) (name : String) (entry : Entry) :
    (table.put name entry).lookup name = some entry := by
  induction table with
  | nil => exact List.lookup_cons_self
  | cons field table ih =>
      obtain ⟨key, old⟩ := field
      by_cases here : key = name
      · subst here
        rw [put, if_pos rfl, List.lookup_cons_self]
      · rw [put, if_neg here, lookup_cons_of_ne old (Ne.symm here), ih]

theorem lookup_put_of_ne (table : Table) (entry : Entry) (apart : other ≠ name) :
    (table.put name entry).lookup other = table.lookup other := by
  induction table with
  | nil => exact lookup_cons_of_ne entry apart
  | cons field table ih =>
      obtain ⟨key, old⟩ := field
      by_cases here : key = name
      · subst here
        rw [put, if_pos rfl, lookup_cons_of_ne entry apart, lookup_cons_of_ne old apart]
      · rw [put, if_neg here, List.lookup_cons, List.lookup_cons, ih]

theorem map_fst_put (table : Table) (name : String) (entry : Entry) :
    (table.put name entry).map Prod.fst =
      if name ∈ table.map Prod.fst then table.map Prod.fst else table.map Prod.fst ++ [name] := by
  induction table with
  | nil => rfl
  | cons field table ih =>
      obtain ⟨key, old⟩ := field
      by_cases here : key = name
      · simp [put, here]
      · rw [put, if_neg here, List.map_cons, List.map_cons, ih]
        by_cases later : name ∈ table.map Prod.fst
        · rw [if_pos later, if_pos (List.mem_cons_of_mem key later)]
        · rw [if_neg later, if_neg (by simpa [Ne.symm here] using later)]
          rfl

theorem nodup_put (distinct : (table.map Prod.fst).Nodup) (name : String) (entry : Entry) :
    ((table.put name entry).map Prod.fst).Nodup := by
  rw [map_fst_put]
  split
  case isTrue => exact distinct
  case isFalse fresh =>
    refine List.nodup_append.mpr ⟨distinct, List.nodup_singleton name, fun key there key' own => ?_⟩
    cases List.mem_singleton.mp own
    exact fun same => fresh (same ▸ there)

end Table

variable {table after : Table} {write : Write} {writes : List Write}

theorem merge_cons (write : Write) (writes : List Write) (table : Table) :
    merge (write :: writes) table = (write.apply table >>= merge writes) := rfl

theorem merge_append (first second : List Write) (table : Table) :
    merge (first ++ second) table = (merge first table >>= merge second) := List.foldlM_append

theorem Write.apply_eq_ok : write.apply table = .ok after ↔
    ∃ entry, alter write.action write.address.steps (table.lookup write.address.name) = .ok entry ∧
      after = table.put write.address.name entry := by
  refine bind_eq_ok.trans (exists_congr fun entry => and_congr_right fun _ => ?_)
  exact ⟨fun same => (Except.ok.inj same).symm, fun same => congrArg Except.ok same.symm⟩

theorem nodup_merge (distinct : (table.map Prod.fst).Nodup)
    (merged : merge writes table = .ok after) : (after.map Prod.fst).Nodup := by
  induction writes generalizing table with
  | nil =>
      cases merged
      exact distinct
  | cons write writes ih =>
      rw [merge_cons] at merged
      obtain ⟨between, applied, merged⟩ := bind_eq_ok.mp merged
      obtain ⟨entry, altered, rfl⟩ := Write.apply_eq_ok.mp applied
      exact ih (Table.nodup_put distinct _ entry) merged

theorem mem_names_of_merge (merged : merge writes table = .ok after) {name : String}
    (there : name ∈ after.map Prod.fst) :
    name ∈ table.map Prod.fst ∨ ∃ write ∈ writes, write.address.name = name := by
  induction writes generalizing table with
  | nil =>
      cases merged
      exact .inl there
  | cons write writes ih =>
      rw [merge_cons] at merged
      obtain ⟨between, applied, merged⟩ := bind_eq_ok.mp merged
      obtain ⟨entry, altered, rfl⟩ := Write.apply_eq_ok.mp applied
      rcases ih merged with before | ⟨later, among, own⟩
      · rw [Table.map_fst_put] at before
        split at before
        case isTrue => exact .inl before
        case isFalse =>
          rcases List.mem_append.mp before with before | own
          · exact .inl before
          · exact .inr ⟨write, List.mem_cons_self, (List.mem_singleton.mp own).symm⟩
      · exact .inr ⟨later, List.mem_cons_of_mem write among, own⟩

namespace Address

def Step.IsForward : Step → Prop
  | .part _ => True
  | .element index => 0 ≤ index

instance : DecidablePred Step.IsForward := fun step =>
  match step with
  | .part _ => .isTrue trivial
  | .element index => inferInstanceAs (Decidable (0 ≤ index))

def IsForward (address : Address) : Prop := ∀ step ∈ address.steps, step.IsForward

instance : DecidablePred IsForward := fun address =>
  inferInstanceAs (Decidable (∀ step ∈ address.steps, step.IsForward))

end Address

theorem alter_of_forward {steps : List Address.Step} (forward : ∀ step ∈ steps, step.IsForward)
    (action : Action) (old : Option Entry) : ∃ entry, alter action steps old = .ok entry := by
  induction steps generalizing old with
  | nil => exact ⟨_, rfl⟩
  | cons step steps ih =>
      obtain ⟨own, others⟩ := List.forall_mem_cons.mp forward
      cases step with
      | part name =>
          obtain ⟨entry, altered⟩ := ih others (((old.map Entry.fields).getD []).lookup name)
          exact ⟨_, bind_eq_ok.mpr ⟨entry, altered, rfl⟩⟩
      | element index =>
          have reached : position index ((old.map Entry.items).getD []).length =
              .ok index.toNat := if_pos own
          obtain ⟨entry, altered⟩ :=
            ih others (padded index.toNat ((old.map Entry.items).getD []))[index.toNat]?
          exact ⟨_, bind_eq_ok.mpr ⟨_, reached, bind_eq_ok.mpr ⟨entry, altered, rfl⟩⟩⟩

theorem merge_of_forward (forward : ∀ write ∈ writes, write.address.IsForward) (table : Table) :
    ∃ after, merge writes table = .ok after := by
  induction writes generalizing table with
  | nil => exact ⟨table, rfl⟩
  | cons write writes ih =>
      obtain ⟨own, others⟩ := List.forall_mem_cons.mp forward
      obtain ⟨entry, altered⟩ := alter_of_forward own write.action (table.lookup write.address.name)
      obtain ⟨after, merged⟩ := ih others (table.put write.address.name entry)
      exact ⟨after, bind_eq_ok.mpr ⟨_, Write.apply_eq_ok.mpr ⟨entry, altered, rfl⟩, merged⟩⟩

end KeywordHarvest
