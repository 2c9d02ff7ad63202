import KeywordHarvest.Proofs.Call.Unquoted

/-! Markers that end alike. A call of the longer marker holds a call of the shorter one, with the
same keyword and the same end. Calls of the longer marker may overlap, but those that its search takes
start one after another, and so do the calls in them, which the search for the shorter marker all
finds. -/

namespace KeywordHarvest.Call

variable {marker beginning text : List Char} {call : Occurrence}

def Occurrence.shorten (beginning : List Char) (call : Occurrence) : Occurrence :=
  ⟨call.start + beginning.length, call.stop, call.keyword⟩

theorem Occurrence.In.shorten (occurs : call.In (beginning ++ marker) text) :
    (call.shorten beginning).In marker text := by
  have opened : text.drop (call.start + beginning.length) =
      opener marker ++ call.keyword ++ '"' :: ')' :: text.drop call.stop := by
    rw [← List.drop_drop, occurs.drop_start]
    simp [opener]
  have filled : ∀ c ∈ call.keyword, isKeywordChar c := fun c member =>
    isKeywordChar_iff.mpr (occurs.filled c member)
  have ends : call.start + beginning.length + size marker call.keyword = call.stop := by
    rw [occurs.stop_eq, size, size, List.length_append]
    omega
  obtain ⟨inner, _⟩ :=
    in_of_here? (here?_eq_some.mpr ⟨opened, occurs.nonempty, filled⟩)
  rw [ends] at inner
  exact inner

/-- What is extracted with a marker that another one ends in is extracted with that one too, in the
same order and as many times. -/
theorem extract_sublist (marker longer : Marker) (unquoted : '"' ∉ marker.text.toList)
    (opens : marker.text.toList.head? ≠ some ')') (beginning : String)
    (ends : longer.text = beginning ++ marker.text) (text : String) :
    ∃ kept every, extract longer.text text = .ok kept ∧ extract marker.text text = .ok every ∧
      kept.Sublist every := by
  have nonempty : marker.text.toList ≠ [] := by simpa using marker.nonempty
  obtain ⟨calls, scan, same⟩ := exists_leftmost marker.text.toList text.toList 0
  obtain ⟨others, scan', same'⟩ := exists_leftmost longer.text.toList text.toList 0
  rw [List.drop_zero] at same same'
  rw [ends, String.toList_append] at scan'
  have shortened : (others.map (Occurrence.shorten beginning.toList)).Sublist calls := by
    apply scan.sublist fun call other occurs also =>
      occurs.stop_le_start unquoted nonempty opens also
    · refine List.Pairwise.map _ (fun call later before => ?_) scan'.increasing
      exact Nat.add_lt_add_right before _
    · intro call member
      obtain ⟨other, found, rfl⟩ := List.mem_map.mp member
      exact ⟨(scan'.start_ge other found).1.shorten, Nat.zero_le _⟩
  have keywords := shortened.map fun call => String.ofList call.keyword
  refine ⟨_, _, extract_text longer text, extract_text marker text, ?_⟩
  rw [Marker.keywords, Marker.keywords, same, same', List.map_map, List.map_map]
  rwa [List.map_map] at keywords

/-- It holds whole calls of the marker that it ends in, and its own calls overlap. -/
def overlappingMarker : Marker := ⟨")aa(\"a\")aa", by decide, by decide⟩

def overlappingText : String := ")aa(\"a\")aa(\"a\")aa(\"b\")aa(\"a\")aa(\"c\")"

theorem extract_sublist_overlapping :
    '"' ∉ doubledMarker.text.toList ∧ doubledMarker.text.toList.head? ≠ some ')' ∧
      overlappingMarker.text = ")aa(\"a\")" ++ doubledMarker.text ∧
      extract overlappingMarker.text overlappingText = .ok ["a", "c"] ∧
      extract doubledMarker.text overlappingText = .ok ["a", "a", "b", "a", "c"] ∧
      ["a", "c"].Sublist ["a", "a", "b", "a", "c"] := by
  have unquoted : '"' ∉ doubledMarker.text.toList := by decide
  have opens : doubledMarker.text.toList.head? ≠ some ')' := by decide
  have ends : overlappingMarker.text = ")aa(\"a\")" ++ doubledMarker.text := by decide
  have few : overlappingMarker.keywords overlappingText = ["a", "c"] := by decide +kernel
  have all : doubledMarker.keywords overlappingText = ["a", "a", "b", "a", "c"] := by
    decide +kernel
  obtain ⟨kept, every, found, found', within⟩ :=
    extract_sublist doubledMarker overlappingMarker unquoted opens _ ends overlappingText
  rw [extract_text, few] at found
  rw [extract_text, all] at found'
  cases found
  cases found'
  refine ⟨unquoted, opens, ends, ?_, ?_, within⟩
  · rw [extract_text, few]
  · rw [extract_text, all]

/-- A marker that starts with a closing parenthesis loses a call that a longer one finds. -/
example : Marker.keywords ⟨")kw", by decide, by decide⟩ ")kw(\"a\")kw(\"b\")" = ["a"] ∧
    Marker.keywords ⟨"\")kw", by decide, by decide⟩ ")kw(\"a\")kw(\"b\")" = ["b"] := by
  decide +kernel

end KeywordHarvest.Call
