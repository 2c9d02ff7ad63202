import KeywordHarvest.Proofs.Settings.Change

/-! The second merge, of a table whose keys lead to themselves. It leaves every entry as it is but
for the letter case of the keys inside. -/

namespace KeywordHarvest

/-- Keys in tables in lower case. -/
def Kind.lower : Kind → Kind
  | table names => .table (names.image Text.lowerCase)
  | kind => kind

theorem Entry.kindOver_none (entry : Entry) : entry.kindOver none = entry.kind.lower := by
  cases entry with
  | table fields =>
      cases fields with
      | nil => rfl
      | cons field fields =>
          refine congrArg Kind.table ?_
          ext name
          simp [Kind.namesIn, eq_comm]
  | _ => rfl

namespace Table

variable {table after : Table} {rank : Rank}

/-- Every key leads to itself when it is read as an address. -/
def IsSettled (table : Table) : Prop :=
  ∀ name ∈ table.map Prod.fst, Address.targetOf name = ⟨name, []⟩

theorem filter_eq_lookup (distinct : (table.map Prod.fst).Nodup) (name : String) :
    table.filter (·.1 = name) = (table.lookup name).toList.map (name, ·) := by
  induction table with
  | nil => rfl
  | cons field table ih =>
      obtain ⟨key, entry⟩ := field
      obtain ⟨fresh, rest⟩ := List.nodup_cons.mp distinct
      by_cases here : key = name
      · subst here
        have absent : table.filter (·.1 = key) = [] :=
          List.filter_eq_nil_iff.mpr fun other among same =>
            fresh (List.mem_map.mpr ⟨other, among, of_decide_eq_true same⟩)
        rw [List.filter_cons, if_pos (decide_eq_true rfl), absent, List.lookup_cons_self]
        rfl
      · rw [List.filter_cons, if_neg (by simpa using here), ih rest,
          lookup_cons_of_ne entry (Ne.symm here)]

theorem IsSettled.kind?_merge_writes (settled : table.IsSettled)
    (distinct : (table.map Prod.fst).Nodup) (merged : merge (table.writes rank) [] = .ok after)
    (name : String) : after.kind? name = (table.kind? name).map Kind.lower := by
  have own : table.filter (fun field => (Address.targetOf field.1).name = name) =
      (table.lookup name).toList.map (name, ·) := by
    rw [← filter_eq_lookup distinct]
    refine List.filter_congr fun field there => ?_
    rw [settled field.1 (List.mem_map_of_mem there)]
  rw [kind?_merge merged, filter_writes (fun other => decide (other = name)), own, kind?, kind?]
  cases found : table.lookup name with
  | none => rfl
  | some entry =>
      have leads := settled name (by
        obtain ⟨before, _, rfl, _⟩ := List.lookup_eq_some_iff.mp found
        simp)
      have alone : writes rank [(name, entry)] = fieldWrites rank (name, entry) :=
        List.append_nil _
      rw [Option.toList_some, List.map_singleton, alone, fieldWrites_of_plain (by rw [leads]),
        Entry.kindsAfter_writes]
      exact congrArg some (Entry.kindOver_none entry)

end Table

end KeywordHarvest
