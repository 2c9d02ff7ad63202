import KeywordHarvest.Proofs.Call.Leftmost
import KeywordHarvest.Proofs.Listing.Rescan

/-! Extraction from a listing. Whatever marker the listed keywords were extracted with, any marker
extracts from a listing what it extracts from the declaration up to the name. A call needs both
parentheses and a quote, so a name that lacks one of these leaves no call at all in the listing. -/

namespace KeywordHarvest

namespace Call

variable {marker text : List Char}

theorem keywords_eq_nil_iff : keywords (opener marker) text = [] ↔
    ∀ call : Occurrence, ¬ call.In marker text := by
  obtain ⟨calls, scan, same⟩ := exists_leftmost marker text 0
  rw [← scan.eq_nil_iff, ← List.drop_zero (l := text), same, List.map_eq_nil_iff]

/-- What every call is written with. -/
def framing : List Char := ['(', '"', ')']

theorem Occurrence.In.framing_subset {call : Occurrence} (occurs : call.In marker text) :
    framing ⊆ text := by
  have inside : framing ⊆ text.extract call.start call.stop := by
    rw [occurs.slice]
    intro c member
    simp only [framing, List.mem_cons, List.not_mem_nil, or_false] at member
    rcases member with rfl | rfl | rfl <;> simp
  rw [List.extract_eq_take_drop] at inside
  exact fun c member => List.mem_of_mem_drop (List.mem_of_mem_take (inside member))

end Call

namespace Listing

open Call (Occurrence)

variable {keywords : List String}

theorem not_in_write {name : String} (plain : Plain (keywords.map String.toList))
    (lacks : ∃ c ∈ Call.framing, c ∉ name.toList) (format : Format) (marker : List Char)
    (call : Occurrence) :
    ¬ call.In marker ((⟨format, name⟩ : Listing).write keywords).toList := by
  refine Call.keywords_eq_nil_iff.mp ?_ call
  rw [toList_write]
  cases format with
  | json => exact keywords_json plain
  | typeScript =>
      refine (keywords_typeScript plain name.toList).trans
        (Call.keywords_eq_nil_iff.mpr fun other occurs => ?_)
      obtain ⟨c, needed, absent⟩ := lacks
      have declared : Call.framing.all fun c => c ∉ "export const ".toList := by decide
      rcases List.mem_append.mp (occurs.framing_subset needed) with early | named
      · exact of_decide_eq_true (List.all_eq_true.mp declared c needed) early
      · exact absent named

/-- What any marker extracts from a listing of the keywords that another one has extracted. -/
theorem extract_write (first second : Marker) (source name : String) :
    ∃ keywords, extract first.text source = .ok keywords ∧
      extract second.text ((⟨.json, name⟩ : Listing).write keywords) = .ok [] ∧
      extract second.text ((⟨.typeScript, name⟩ : Listing).write keywords) =
        extract second.text ("export const " ++ name) ∧
      ('(' ∉ name.toList ∨ ')' ∉ name.toList ∨ '"' ∉ name.toList →
        ∀ (format : Format) (marker : List Char) (call : Occurrence),
          ¬ call.In marker ((⟨format, name⟩ : Listing).write keywords).toList) := by
  refine ⟨first.keywords source, Call.extract_text first source, ?_, ?_, fun lacks => ?_⟩
  · rw [Call.extract_text, keywords_write]
    rfl
  · rw [Call.extract_text, Call.extract_text, keywords_write]
    rfl
  · have plain : Plain ((first.keywords source).map String.toList) := by
      rw [toList_keywords]
      exact plain_keywords _ _
    refine not_in_write plain ?_
    rcases lacks with opening | closing | quote
    · exact ⟨'(', by decide, opening⟩
    · exact ⟨')', by decide, closing⟩
    · exact ⟨'"', by decide, quote⟩

/-- A marker that goes on from the declaration into the name. -/
def declaringMarker : Marker := ⟨"const a", by decide, by decide⟩

/-- A marker that ends as an element of a listing starts. -/
def elementMarker : Marker := ⟨"\n  '", by decide, by decide⟩

theorem extract_write_declared :
    extract declaringMarker.text ((⟨.typeScript, "a(\"b\")"⟩ : Listing).write ["x", "x"]) =
        .ok ["b"] ∧
      ')' ∉ "a(\"b\"".toList ∧
      ∀ call : Occurrence,
        ¬ call.In elementMarker.text.toList
          ((⟨.typeScript, "a(\"b\""⟩ : Listing).write ["x", "x"]).toList := by
  have found : Marker.standard.keywords "kw(\"x\")kw(\"x\")" = ["x", "x"] := by decide +kernel
  have own : declaringMarker.keywords ("export const " ++ "a(\"b\")") = ["b"] := by decide +kernel
  have lacks : ')' ∉ "a(\"b\"".toList := by decide
  obtain ⟨keywords, extracted, _, listed, _⟩ :=
    extract_write Marker.standard declaringMarker "kw(\"x\")kw(\"x\")" "a(\"b\")"
  obtain ⟨keywords', extracted', _, _, clear⟩ :=
    extract_write Marker.standard elementMarker "kw(\"x\")kw(\"x\")" "a(\"b\""
  rw [Call.extract_text, found] at extracted extracted'
  cases extracted
  cases extracted'
  refine ⟨?_, lacks, clear (.inr (.inl lacks)) .typeScript _⟩
  rw [listed, Call.extract_text, own]

end Listing

end KeywordHarvest
