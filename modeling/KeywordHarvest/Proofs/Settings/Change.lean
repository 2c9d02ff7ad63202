import KeywordHarvest.Proofs.Settings.Kind

/-! Merging as changes to the kinds of single entries, one for each key at most. Kinds that a change
makes equal are made equal by it after any other change as well, so a change that is made again
later need not be made before, whatever is changed in between. -/

namespace KeywordHarvest

inductive Change
  | replace (kind : Kind)
  | extend (names : Finset String)
  | index

namespace Change

def apply : Change → Kind → Kind
  | replace kind, _ => kind
  | extend names, kind => .table (names ∪ kind.names)
  | index, kind => .list kind.listOrigin

end Change

/-- What an entry changes where it is merged. An empty table changes nothing. -/
def Entry.change? : Entry → Option Change
  | .table [] => none
  | .table fields => some (.extend (fields.map (Text.lowerCase ·.1)).toFinset)
  | entry => some (.replace entry.kind)

def Change.ofField? (field : String × Entry) : Option Change :=
  match (Address.targetOf field.1).steps with
  | [] => field.2.change?
  | .part name :: _ => some (.extend {name})
  | .element _ :: _ => some .index

theorem Change.ofField?_of_plain {field : String × Entry}
    (plain : (Address.targetOf field.1).steps = []) : ofField? field = field.2.change? := by
  rw [ofField?, plain]

theorem Entry.kindOver_some (entry : Entry) (kind : Kind) :
    entry.kindOver (some kind) = entry.change?.elim kind (·.apply kind) := by
  cases entry with
  | table fields => cases fields <;> rfl
  | _ => rfl

namespace Table

variable {rank : Rank} {field : String × Entry} {name : String}

theorem name_of_mem_fieldWrites {write : Write} (among : write ∈ fieldWrites rank field) :
    write.address.name = (Address.targetOf field.1).name := by
  unfold fieldWrites at among
  split at among
  · cases List.mem_singleton.mp among
    rfl
  · obtain ⟨names, leads⟩ := Entry.address_of_mem_writes _ _ _ write among
    rw [leads]

theorem isForward_of_mem_writes {own : Table} {write : Write}
    (forward : ∀ field ∈ own, (Address.targetOf field.1).IsForward)
    (among : write ∈ own.writes rank) : write.address.IsForward := by
  obtain ⟨field, arranged, among⟩ := List.mem_flatMap.mp among
  have lead := forward field ((mem_arrange _).mp arranged)
  unfold fieldWrites at among
  split at among
  · cases List.mem_singleton.mp among
    exact lead
  · obtain ⟨names, leads⟩ := Entry.address_of_mem_writes _ _ _ write among
    rw [leads]
    intro step member
    rcases List.mem_append.mp member with own | inner
    · exact lead step own
    · obtain ⟨name, _, rfl⟩ := List.mem_map.mp inner
      trivial

theorem kindsAfter_fieldWrites_of_step {step : Address.Step} {steps : List Address.Step}
    (leads : (Address.targetOf field.1).steps = step :: steps) (old : Option Kind) :
    kindsAfter (fieldWrites rank field) old = some (step.kindAfter old) := by
  refine kindsAfter_of_step ?_ (fun write among => ?_) old
  · unfold fieldWrites
    split
    · exact List.cons_ne_nil _ _
    · exact Entry.writes_ne_nil field.2
  · unfold fieldWrites at among
    split at among
    · cases List.mem_singleton.mp among
      exact ⟨steps, leads⟩
    · obtain ⟨names, own⟩ := Entry.address_of_mem_writes _ _ _ write among
      exact ⟨_, by rw [own, leads, List.cons_append]⟩

theorem fieldWrites_of_plain (plain : (Address.targetOf field.1).steps = []) :
    fieldWrites rank field =
      field.2.writes rank [field.1] ⟨(Address.targetOf field.1).name, []⟩ := by
  have whole : (Address.targetOf field.1) =
      ⟨(Address.targetOf field.1).name, []⟩ := by rw [← plain]
  rw [fieldWrites, whole]
  rfl

theorem kindsAfter_fieldWrites (field : String × Entry) (kind : Kind) :
    kindsAfter (fieldWrites rank field) (some kind) =
      some ((Change.ofField? field).elim kind (·.apply kind)) := by
  unfold Change.ofField?
  cases leads : (Address.targetOf field.1).steps with
  | nil => rw [fieldWrites_of_plain leads, Entry.kindsAfter_writes, Entry.kindOver_some]
  | cons step steps =>
      rw [kindsAfter_fieldWrites_of_step leads]
      cases step with
      | part name => rw [Address.Step.kindAfter, Finset.insert_eq]; rfl
      | element index => rfl

def changes (name : String) (table : Table) : List Change :=
  (table.filter (fun field => (Address.targetOf field.1).name = name)).filterMap Change.ofField?

theorem filter_flatMap_fieldWrites (keep : String → Bool) (fields : Table) :
    (fields.flatMap (fieldWrites rank)).filter (keep ·.address.name) =
      (fields.filter fun field => keep (Address.targetOf field.1).name).flatMap
        (fieldWrites rank) := by
  induction fields with
  | nil => rfl
  | cons field fields ih =>
      rw [List.flatMap_cons, List.filter_append, ih, List.filter_cons]
      cases kept : keep (Address.targetOf field.1).name with
      | true =>
          have own : (fieldWrites rank field).filter (keep ·.address.name) =
              fieldWrites rank field :=
            List.filter_eq_self.mpr fun write among => by rw [name_of_mem_fieldWrites among, kept]
          rw [own, if_pos rfl, List.flatMap_cons]
      | false =>
          have others : (fieldWrites rank field).filter (keep ·.address.name) = [] :=
            List.filter_eq_nil_iff.mpr fun write among => by
              simp [name_of_mem_fieldWrites among, kept]
          rw [others, if_neg Bool.false_ne_true, List.nil_append]

theorem filter_writes (keep : String → Bool) (table : Table) :
    (table.writes rank).filter (keep ·.address.name) =
      writes rank (table.filter fun field => keep (Address.targetOf field.1).name) := by
  rw [writes, filter_flatMap_fieldWrites, arrange_filter, writes]

theorem kindsAfter_flatMap_fieldWrites (fields : Table) (kind : Kind) :
    kindsAfter (fields.flatMap (fieldWrites rank)) (some kind) =
      some ((fields.filterMap Change.ofField?).foldl (fun kind next => next.apply kind) kind) := by
  induction fields generalizing kind with
  | nil => rfl
  | cons field fields ih =>
      rw [List.flatMap_cons, kindsAfter_append, kindsAfter_fieldWrites, ih, List.filterMap_cons]
      cases Change.ofField? field <;> rfl

theorem kind?_merge_writes {own table after : Table} {kind : Kind}
    (merged : merge (own.writes rank) table = .ok after) (present : table.kind? name = some kind)
    (single : (own.changes name).length ≤ 1) :
    after.kind? name = some ((own.changes name).foldl (fun kind next => next.apply kind) kind) := by
  have arranged : ((arrange (rank [] ·.1) (own.filter fun field =>
      (Address.targetOf field.1).name = name)).filterMap Change.ofField?).Perm (own.changes name) :=
    (arrange_perm _ _).filterMap _
  have same : (arrange (rank [] ·.1) (own.filter fun field =>
      (Address.targetOf field.1).name = name)).filterMap Change.ofField? = own.changes name := by
    cases changes : own.changes name with
    | nil => exact (changes ▸ arranged).eq_nil
    | cons change others =>
        rw [changes] at single arranged
        rw [List.eq_nil_of_length_eq_zero (Nat.le_zero.mp (Nat.le_of_succ_le_succ single))]
          at arranged ⊢
        exact arranged.eq_singleton
  rw [kind?_merge merged, filter_writes (fun other => decide (other = name)), writes, present,
    kindsAfter_flatMap_fieldWrites, same]

end Table

end KeywordHarvest
