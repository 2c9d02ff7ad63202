import KeywordHarvest.Text.WordChar

/-! Marker calls in a text. A call is an opener, which is a marker with an opening parenthesis and
a double quote, then a keyword of word characters and spaces, then the closing quote and
parenthesis. Calls are found left to right, and the search goes on after the end of the last one. -/

namespace KeywordHarvest.Call

def isKeywordChar (c : Char) : Bool := Text.isWordChar c || c = ' '

def opener (marker : List Char) : List Char := marker ++ ['(', '"']

def after? : List Char → List Char → Option (List Char)
  | [], text => some text
  | c :: beginning, d :: text => if c = d then after? beginning text else none
  | _ :: _, [] => none

def closing? (text : List Char) : Option (List Char × List Char) :=
  match text.takeWhile isKeywordChar, text.dropWhile isKeywordChar with
  | first :: others, '"' :: ')' :: rest => some (first :: others, rest)
  | _, _ => none

/-- The call that starts here, as its keyword and the text after it. -/
def here? (opener text : List Char) : Option (List Char × List Char) :=
  (after? opener text).bind closing?

theorem after?_eq_some {beginning text rest : List Char} :
    after? beginning text = some rest ↔ text = beginning ++ rest := by
  induction beginning generalizing text with
  | nil => simp [after?]
  | cons c beginning ih =>
      cases text with
      | nil => simp [after?]
      | cons d text =>
          by_cases same : c = d
          · simp [after?, same, ih]
          · simp [after?, same, Ne.symm same]

theorem eq_of_closing? {text keyword rest : List Char}
    (closed : closing? text = some (keyword, rest)) :
    text = keyword ++ '"' :: ')' :: rest ∧ keyword ≠ [] ∧ keyword.all isKeywordChar := by
  unfold closing? at closed
  split at closed
  case h_2 => simp at closed
  case h_1 first others rest' taken dropped =>
    obtain ⟨rfl, rfl⟩ := Prod.mk.inj (Option.some.inj closed)
    refine ⟨?_, by simp, ?_⟩
    · rw [← taken, ← dropped, List.takeWhile_append_dropWhile]
    · rw [← taken]; exact List.all_takeWhile

theorem eq_of_here? {opener text keyword rest : List Char}
    (found : here? opener text = some (keyword, rest)) :
    text = opener ++ keyword ++ '"' :: ')' :: rest ∧ keyword ≠ [] ∧ keyword.all isKeywordChar := by
  obtain ⟨inner, opened, closed⟩ := Option.bind_eq_some_iff.mp found
  obtain ⟨rfl, filled⟩ := eq_of_closing? closed
  exact ⟨by simp [after?_eq_some.mp opened], filled⟩

theorem length_of_here? {opener text keyword rest : List Char}
    (found : here? opener text = some (keyword, rest)) : rest.length < text.length := by
  rw [(eq_of_here? found).1]
  simp
  omega

def keywords (opener : List Char) : List Char → List (List Char)
  | [] => []
  | c :: text =>
      match found : here? opener (c :: text) with
      | some (keyword, rest) =>
          have : rest.length < text.length + 1 := length_of_here? found
          keyword :: keywords opener rest
      | none => keywords opener text
  termination_by text => text.length

@[simp] theorem keywords_nil (opener : List Char) : keywords opener [] = [] := by
  rw [keywords]

theorem keywords_of_here? {opener text keyword rest : List Char}
    (found : here? opener text = some (keyword, rest)) :
    keywords opener text = keyword :: keywords opener rest := by
  cases text with
  | nil => exact absurd (length_of_here? found) (by simp)
  | cons c text =>
      rw [keywords]
      split
      case h_1 _ _ other => rw [found] at other; cases other; rfl
      case h_2 missing => rw [found] at missing; cases missing

theorem keywords_of_none {opener text : List Char} {c : Char}
    (missing : here? opener (c :: text) = none) :
    keywords opener (c :: text) = keywords opener text := by
  rw [keywords]
  split
  case h_1 _ _ found => rw [missing] at found; cases found
  case h_2 => rfl

end KeywordHarvest.Call
