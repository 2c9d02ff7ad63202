import KeywordHarvest.Proofs.Call.Search
import KeywordHarvest.Proofs.Call.Unquoted

/-! Calls put into a text. Between fillers without quotes, the only quotes of a text are those of the
calls put there, so the search comes to each of these calls in turn and to nothing else, whatever
parts of the marker and of a call the fillers hold. -/

namespace KeywordHarvest.Call

variable {marker filler keyword : List Char}

theorem keywords_filler (unquoted : '"' ∉ marker) (plain : '"' ∉ filler) (nonempty : keyword ≠ [])
    (filled : ∀ c ∈ keyword, isKeywordChar c) (rest : List Char) :
    keywords (opener marker) (filler ++ opener marker ++ keyword ++ '"' :: ')' :: rest) =
      keyword :: keywords (opener marker) rest := by
  induction filler with
  | nil => exact keywords_of_here? (here?_eq_some.mpr ⟨rfl, nonempty, filled⟩)
  | cons c filler ih =>
      have front : '"' ∉ c :: filler ++ (marker ++ ['(']) := by
        rw [List.mem_append, not_or]
        exact ⟨plain, not_mem_opening unquoted⟩
      have shape : c :: filler ++ opener marker ++ keyword ++ '"' :: ')' :: rest =
          (c :: filler ++ (marker ++ ['('])) ++ '"' :: (keyword ++ '"' :: ')' :: rest) := by
        simp [opener]
      have missing : here? (opener marker)
          (c :: filler ++ opener marker ++ keyword ++ '"' :: ')' :: rest) = none := by
        -- More than the opener of a call precedes the next quote.
        apply here?_of_beforeQuote_ne unquoted
        rw [shape, beforeQuote_append front]
        intro same
        have lengths := congrArg List.length same
        simp only [List.length_append, List.length_cons] at lengths
        omega
      exact (keywords_of_none missing).trans (ih (mt (List.mem_cons_of_mem c) plain))

/-- A keyword to put into a text as a call, and the filler after the call. -/
structure Plant where
  keyword : String
  filler : String
  nonempty : keyword ≠ ""
  filled : ∀ c ∈ keyword.toList, Text.isWordChar c ∨ c = ' '
  unquoted : '"' ∉ filler.toList

def Plant.written (marker : String) (plant : Plant) : String :=
  marker ++ "(\"" ++ plant.keyword ++ "\")" ++ plant.filler

theorem Plant.toList_written (marker : String) (plant : Plant) :
    (plant.written marker).toList = opener marker.toList ++ plant.keyword.toList ++
      '"' :: ')' :: plant.filler.toList := by
  simp [written, opener]

/-- A first filler, and then the calls with the fillers after them. -/
def planted (marker first : String) (plants : List Plant) : String :=
  first ++ String.join (plants.map (Plant.written marker))

theorem toList_planted (marker first : String) (plants : List Plant) :
    (planted marker first plants).toList =
      first.toList ++ plants.flatMap fun plant => (plant.written marker).toList := by
  rw [planted, String.toList_append]
  congr 1
  induction plants with
  | nil => rfl
  | cons plant plants ih => simp [ih]

theorem keywords_planted {marker first : String} (unquoted : '"' ∉ marker.toList)
    (plain : '"' ∉ first.toList) (plants : List Plant) :
    keywords (opener marker.toList) (planted marker first plants).toList =
      plants.map (·.keyword.toList) := by
  rw [toList_planted]
  induction plants generalizing first with
  | nil => simpa using keywords_eq_nil (.inl plain)
  | cons plant plants ih =>
      have nonempty : plant.keyword.toList ≠ [] := by simpa using plant.nonempty
      have filled : ∀ c ∈ plant.keyword.toList, isKeywordChar c := fun c member =>
        isKeywordChar_iff.mpr (plant.filled c member)
      have found := keywords_filler unquoted plain nonempty filled
        (plant.filler.toList ++ plants.flatMap fun plant => (plant.written marker).toList)
      rw [ih plant.unquoted] at found
      rw [List.flatMap_cons, Plant.toList_written, List.map_cons, ← found]
      simp

/-- Whatever is put into a text as calls is extracted from it, also where the marker starts with a
closing parenthesis. -/
theorem extract_planted (marker : Marker) (unquoted : '"' ∉ marker.text.toList) (first : String)
    (plain : '"' ∉ first.toList) (plants : List Plant) :
    extract marker.text (planted marker.text first plants) = .ok (plants.map (·.keyword)) := by
  rw [extract_text, Marker.keywords, keywords_planted unquoted plain, List.map_map]
  simp [Function.comp_def]

theorem filled_of_all {keyword : String} (every : keyword.toList.all isKeywordChar = true) :
    ∀ c ∈ keyword.toList, Text.isWordChar c ∨ c = ' ' := by
  intro c member
  exact isKeywordChar_iff.mp (List.all_eq_true.mp every c member)

/-- Fillers that end in a part of the marker or in an opener without its quote, and two calls with
nothing between them. -/
def trickyPlants : List Plant :=
  [⟨"group by", ")aa(a", by decide, filled_of_all (by decide +kernel), by decide⟩,
    ⟨"año_2", "", by decide, filled_of_all (by decide +kernel), by decide⟩,
    ⟨"aaa", "\naa('x')aa(", by decide, filled_of_all (by decide +kernel), by decide⟩]

theorem extract_planted_tricky :
    '"' ∉ doubledMarker.text.toList ∧ '"' ∉ "aa(a".toList ∧
      extract doubledMarker.text
          "aa(aaa(\"group by\"))aa(aaa(\"año_2\")aa(\"aaa\")\naa('x')aa(" =
        .ok ["group by", "año_2", "aaa"] := by
  have unquoted : '"' ∉ doubledMarker.text.toList := by decide
  have plain : '"' ∉ "aa(a".toList := by decide
  have written : planted doubledMarker.text "aa(a" trickyPlants =
      "aa(aaa(\"group by\"))aa(aaa(\"año_2\")aa(\"aaa\")\naa('x')aa(" := by decide +kernel
  rw [← written]
  exact ⟨unquoted, plain, extract_planted doubledMarker unquoted "aa(a" plain trickyPlants⟩

end KeywordHarvest.Call
