import KeywordHarvest.Proofs.Call.Search
import KeywordHarvest.Listing
import KeywordHarvest.Marker

/-! The search for calls on a listing itself. Nothing that a listing writes around and of its
keywords holds a closing parenthesis, so every call in it stands in the part up to the name of a
TypeScript constant, whatever the marker is. -/

namespace KeywordHarvest.Listing

variable {opener : List Char} {keywords : List (List Char)}

/-- Keywords as a search gives them. -/
def Plain (keywords : List (List Char)) : Prop :=
  ∀ keyword ∈ keywords, ∀ c ∈ keyword, Call.isKeywordChar c

theorem plain_keywords (opener text : List Char) : Plain (Call.keywords opener text) :=
  fun _ member => (Call.mem_keywords member).2

theorem not_mem_of_plain {keyword : List Char} (plain : Plain keywords)
    (member : keyword ∈ keywords) : ')' ∉ keyword := by
  intro closing
  have filled := plain keyword member ')' closing
  rw [Call.not_isKeywordChar_closing] at filled
  cases filled

theorem not_mem_element (plain : Plain keywords) :
    ')' ∉ keywords.flatMap TypeScript.element := by
  intro member
  obtain ⟨keyword, inside, written⟩ := List.mem_flatMap.mp member
  have absent := not_mem_of_plain plain inside
  simp [TypeScript.element, absent] at written

theorem typeScript_parts (name : List Char) (keywords : List (List Char)) :
    TypeScript.write name keywords = ("export const ".toList ++ name) ++
      (" = [\n".toList ++ keywords.flatMap TypeScript.element ++ "]\n".toList) := by
  unfold TypeScript.write TypeScript.header
  -- Rewriting would look for further appends inside the literals.
  generalize "export const ".toList = declaration
  generalize " = [\n".toList = opening
  generalize "]\n".toList = closing
  simp only [List.append_assoc]

theorem keywords_typeScript (plain : Plain keywords) (name : List Char) :
    Call.keywords opener (TypeScript.write name keywords) =
      Call.keywords opener ("export const ".toList ++ name) := by
  have closed : ')' ∉ " = [\n".toList ++ keywords.flatMap TypeScript.element ++ "]\n".toList := by
    simp only [List.mem_append, not_or]
    exact ⟨⟨by decide, not_mem_element plain⟩, by decide⟩
  rw [typeScript_parts]
  exact Call.keywords_append _ closed

theorem not_mem_escape {c : Char} (apart : c ≠ ')') : ')' ∉ Json.escape c := by
  have digits : ∀ value < 16, Json.hexDigit value ≠ ')' := by decide
  unfold Json.escape
  split <;> try decide
  split
  case isTrue small =>
    have high := digits (c.toNat / 16) (by omega)
    have low := digits (c.toNat % 16) (by omega)
    simp [high.symm, low.symm]
  case isFalse => simpa using apart.symm

theorem not_mem_json_element {keyword : List Char} (absent : ')' ∉ keyword) :
    ')' ∉ Json.element keyword := by
  simp only [Json.element, Json.quote, List.mem_cons, List.mem_append, List.mem_flatMap]
  rintro (space | space | quote | ⟨c, member, escaped⟩ | quote)
  · cases space
  · cases space
  · cases quote
  · exact not_mem_escape (fun same => absent (same ▸ member)) escaped
  · simp at quote

theorem not_mem_intercalate {separator : List Char} {parts : List (List Char)}
    (apart : ')' ∉ separator) (absent : ∀ part ∈ parts, ')' ∉ part) :
    ')' ∉ separator.intercalate parts := by
  induction parts with
  | nil => simp
  | cons first others ih =>
      cases others with
      | nil => simpa using absent first
      | cons second others =>
          have later := ih fun part member => absent part (List.mem_cons_of_mem first member)
          have front := absent first List.mem_cons_self
          rw [List.intercalate_cons_cons]
          simp only [List.mem_append, not_or]
          exact ⟨⟨front, apart⟩, later⟩

theorem not_mem_json (plain : Plain keywords) : ')' ∉ Json.write keywords := by
  have elements : ∀ part ∈ keywords.map Json.element, ')' ∉ part := by
    intro part member
    obtain ⟨keyword, inside, rfl⟩ := List.mem_map.mp member
    exact not_mem_json_element (not_mem_of_plain plain inside)
  cases keywords with
  | nil => decide
  | cons first others =>
      have apart : ')' ∉ [',', '\n'] := by decide
      have lines := not_mem_intercalate apart elements
      simpa [Json.write, Json.array] using lines

theorem keywords_json (plain : Plain keywords) :
    Call.keywords opener (Json.write keywords) = [] :=
  Call.keywords_eq_nil (.inr (not_mem_json plain))

/-- The keywords that a marker finds in a listing, whichever keywords are listed: those of the
declaration, which a JSON array does not have. -/
def declared (listing : Listing) (marker : Marker) : List String :=
  match listing.format with
  | .typeScript => marker.keywords ("export const " ++ listing.name)
  | .json => []

theorem toList_keywords (marker : Marker) (text : String) :
    (marker.keywords text).map String.toList =
      Call.keywords (Call.opener marker.text.toList) text.toList := by
  simp [Marker.keywords, Function.comp_def]

theorem keywords_write (listing : Listing) (marker other : Marker) (text : String) :
    other.keywords (listing.write (marker.keywords text)) = listing.declared other := by
  have plain := plain_keywords (Call.opener marker.text.toList) text.toList
  have listed := toList_keywords marker text
  simp only [Marker.keywords, declared, toList_write, chars] at listed ⊢
  rw [listed]
  cases listing.format with
  | typeScript => rw [keywords_typeScript plain, String.toList_append]
  | json => rw [keywords_json plain, List.map_nil]

end KeywordHarvest.Listing
