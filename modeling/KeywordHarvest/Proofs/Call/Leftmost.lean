import KeywordHarvest.Proofs.Call.Occurrence
import KeywordHarvest.Session

/-! Extraction is the leftmost scan. From a position the scan takes the occurrence with the least
start and goes on at its end, until no occurrence is left; the keywords that are extracted are those
of the occurrences taken, for every marker and every text. -/

namespace KeywordHarvest.Call

/-- The occurrences that the leftmost scan takes from a position on. -/
inductive Leftmost (marker text : List Char) : Nat → List Occurrence → Prop
  | done {position : Nat}
      (finished : ∀ call : Occurrence, call.In marker text → call.start < position) :
      Leftmost marker text position []
  | next {position : Nat} {call : Occurrence} {calls : List Occurrence}
      (occurs : call.In marker text) (ahead : position ≤ call.start)
      (least : ∀ other : Occurrence, other.In marker text → position ≤ other.start →
        call.start ≤ other.start)
      (rest : Leftmost marker text call.stop calls) :
      Leftmost marker text position (call :: calls)

namespace Leftmost

variable {marker text : List Char} {position : Nat} {calls others : List Occurrence}

theorem widen (absent : ∀ call : Occurrence, call.In marker text → call.start ≠ position)
    (scan : Leftmost marker text (position + 1) calls) : Leftmost marker text position calls := by
  have later {call : Occurrence} (occurs : call.In marker text) (ahead : position ≤ call.start) :
      position + 1 ≤ call.start := Nat.lt_of_le_of_ne ahead (absent call occurs).symm
  cases scan with
  | done finished =>
      refine done fun call occurs => ?_
      have before := finished call occurs
      have apart := absent call occurs
      omega
  | next occurs ahead least rest =>
      exact next occurs (Nat.le_of_succ_le ahead)
        (fun other also beyond => least other also (later also beyond)) rest

theorem unique (scan : Leftmost marker text position calls)
    (again : Leftmost marker text position others) : calls = others := by
  induction scan generalizing others with
  | done finished =>
      cases again with
      | done _ => rfl
      | next occurs ahead _ _ => exact absurd (finished _ occurs) (Nat.not_lt.mpr ahead)
  | next occurs ahead least _ ih =>
      cases again with
      | done finished => exact absurd (finished _ occurs) (Nat.not_lt.mpr ahead)
      | next occurs' ahead' least' rest' =>
          have same := occurs.eq_of_start occurs'
            (Nat.le_antisymm (least _ occurs' ahead') (least' _ occurs ahead))
          subst same
          rw [ih rest']

theorem start_ge (scan : Leftmost marker text position calls) :
    ∀ call ∈ calls, call.In marker text ∧ position ≤ call.start := by
  induction scan with
  | done _ => simp
  | next occurs ahead _ _ ih =>
      intro call member
      rcases List.mem_cons.mp member with rfl | later
      · exact ⟨occurs, ahead⟩
      · have order := occurs.start_lt_stop
        exact ⟨(ih call later).1, by have beyond := (ih call later).2; omega⟩

theorem pairwise (scan : Leftmost marker text position calls) :
    calls.Pairwise fun call later => call.stop ≤ later.start := by
  induction scan with
  | done _ => exact List.Pairwise.nil
  | next _ _ _ rest ih =>
      exact List.pairwise_cons.mpr ⟨fun later member => (rest.start_ge later member).2, ih⟩

theorem eq_nil_iff (scan : Leftmost marker text 0 calls) :
    calls = [] ↔ ∀ call : Occurrence, ¬ call.In marker text := by
  cases scan with
  | done finished =>
      exact iff_of_true rfl fun call occurs => Nat.not_lt_zero _ (finished call occurs)
  | next occurs _ _ _ =>
      exact iff_of_false (List.cons_ne_nil _ _) fun absent => absent _ occurs

end Leftmost

theorem exists_leftmost (marker text : List Char) (position : Nat) :
    ∃ calls, Leftmost marker text position calls ∧
      keywords (opener marker) (text.drop position) = calls.map (·.keyword) := by
  -- On what is left of the text: after a call the scan goes on behind it, and otherwise at the next
  -- place.
  induction left : text.length - position using Nat.strongRecOn generalizing position with
  | _ left ih =>
    cases start : text.drop position with
    | nil =>
        have ended : text.length ≤ position := List.drop_eq_nil_iff.mp start
        refine ⟨[], .done fun call occurs => ?_, by simp⟩
        exact Nat.lt_of_lt_of_le occurs.start_lt_length ended
    | cons c others =>
        have inside : position < text.length := by
          refine Nat.lt_of_not_le fun beyond => ?_
          rw [List.drop_eq_nil_of_le beyond] at start
          cases start
        have following : text.drop (position + 1) = others := by
          rw [← List.drop_drop, start, List.drop_one, List.tail_cons]
        cases found : here? (opener marker) (c :: others) with
        | none =>
            obtain ⟨calls, scan, same⟩ := ih _ (by omega) (position + 1) rfl
            refine ⟨calls, scan.widen fun call occurs => ?_, ?_⟩
            · exact occurs.start_ne (start ▸ found)
            · rw [keywords_of_none found, ← following, same]
        | some result =>
            obtain ⟨keyword, rest⟩ := result
            obtain ⟨occurs, remains⟩ := Occurrence.in_of_here? (start ▸ found)
            have order := occurs.start_lt_stop
            obtain ⟨calls, scan, same⟩ := ih _ (by simp only at order; omega)
              (position + Occurrence.size marker keyword) rfl
            refine ⟨⟨position, position + Occurrence.size marker keyword, keyword⟩ :: calls,
              .next occurs (Nat.le_refl _) (fun other _ beyond => beyond) scan, ?_⟩
            rw [keywords_of_here? found, remains, same, List.map_cons]

theorem extract_eq_ok {marker text : String} {found : List String} :
    extract marker text = .ok found ↔
      ∃ accepted, Marker.ofText marker = .ok accepted ∧ found = accepted.keywords text := by
  unfold extract
  cases Marker.ofText marker with
  | error fault => simp [Except.map]
  | ok accepted => simp [Except.map, eq_comm]

theorem extract_text (marker : Marker) (text : String) :
    extract marker.text text = .ok (marker.keywords text) :=
  extract_eq_ok.mpr ⟨marker, Marker.ofText_text marker, rfl⟩

/-- An accepted marker makes extraction succeed with the keywords of the leftmost scan, of which
there is exactly one; its calls are disjoint and in order, and it is empty exactly when the text
has no occurrence at all. -/
theorem extract_leftmost (marker : Marker) (text : String) :
    ∃ calls, Leftmost marker.text.toList text.toList 0 calls ∧
      (∀ others, Leftmost marker.text.toList text.toList 0 others → others = calls) ∧
      extract marker.text text = .ok (calls.map fun call => String.ofList call.keyword) ∧
      (calls.Pairwise fun call later => call.stop ≤ later.start) ∧
      (extract marker.text text = .ok [] ↔
        ∀ call : Occurrence, ¬ call.In marker.text.toList text.toList) := by
  obtain ⟨calls, scan, same⟩ := exists_leftmost marker.text.toList text.toList 0
  have extracted : extract marker.text text =
      .ok (calls.map fun call => String.ofList call.keyword) := by
    rw [List.drop_zero] at same
    simp [extract, Marker.ofText_text, Except.map, Marker.keywords, same, Function.comp_def]
  refine ⟨calls, scan, fun others again => again.unique scan, extracted, scan.pairwise, ?_⟩
  rw [extracted, ← scan.eq_nil_iff]
  simp

end KeywordHarvest.Call
