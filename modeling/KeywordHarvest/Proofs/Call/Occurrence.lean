import KeywordHarvest.Call

/-! Calls by their position in a text. An occurrence is a stretch of the text that reads as a call,
wherever it stands; it may lie inside another one, or begin inside a text that only resembles a
call. What starts at a place is decided by the text from there on, so the reader of single calls
finds exactly the occurrences. -/

namespace KeywordHarvest.Call

structure Occurrence where
  start : Nat
  stop : Nat
  keyword : List Char

/-- The text from `start` to `stop` is the marker, an opening parenthesis and a quote, the keyword,
and a quote and a closing parenthesis. -/
structure Occurrence.In (marker text : List Char) (call : Occurrence) : Prop where
  bound : call.stop ≤ text.length
  slice : text.extract call.start call.stop =
    marker ++ ['(', '"'] ++ call.keyword ++ ['"', ')']
  nonempty : call.keyword ≠ []
  filled : ∀ c ∈ call.keyword, Text.isWordChar c ∨ c = ' '

theorem isKeywordChar_iff {c : Char} : isKeywordChar c ↔ Text.isWordChar c ∨ c = ' ' := by
  simp [isKeywordChar]

theorem not_isKeywordChar_quote : isKeywordChar '"' = false := by decide +kernel

theorem closing?_append {keyword : List Char} (rest : List Char) (nonempty : keyword ≠ [])
    (filled : ∀ c ∈ keyword, isKeywordChar c) :
    closing? (keyword ++ '"' :: ')' :: rest) = some (keyword, rest) := by
  have taken : (keyword ++ '"' :: ')' :: rest).takeWhile isKeywordChar = keyword := by
    rw [List.takeWhile_append_of_pos filled]
    simp [not_isKeywordChar_quote]
  have dropped : (keyword ++ '"' :: ')' :: rest).dropWhile isKeywordChar = '"' :: ')' :: rest := by
    rw [List.dropWhile_append_of_pos filled]
    simp [not_isKeywordChar_quote]
  obtain ⟨first, others, rfl⟩ := List.exists_cons_of_ne_nil nonempty
  unfold closing?
  rw [taken, dropped]
  rfl

theorem here?_eq_some {opener text keyword rest : List Char} :
    here? opener text = some (keyword, rest) ↔
      text = opener ++ keyword ++ '"' :: ')' :: rest ∧ keyword ≠ [] ∧
        ∀ c ∈ keyword, isKeywordChar c := by
  constructor
  · intro found
    obtain ⟨shape, nonempty, filled⟩ := eq_of_here? found
    exact ⟨shape, nonempty, List.all_eq_true.mp filled⟩
  · rintro ⟨rfl, nonempty, filled⟩
    have opened : after? opener (opener ++ keyword ++ '"' :: ')' :: rest) =
        some (keyword ++ '"' :: ')' :: rest) :=
      after?_eq_some.mpr (by simp)
    rw [here?, opened]
    exact closing?_append rest nonempty filled

namespace Occurrence

def size (marker keyword : List Char) : Nat := marker.length + keyword.length + 4

variable {marker text : List Char} {call other : Occurrence}

theorem In.stop_eq (occurs : call.In marker text) :
    call.stop = call.start + size marker call.keyword := by
  have bound := occurs.bound
  have lengths := congrArg List.length occurs.slice
  simp only [List.extract_eq_take_drop, List.length_take, List.length_drop, List.length_append,
    List.length_cons, List.length_nil] at lengths
  simp only [size]
  omega

theorem In.start_lt_stop (occurs : call.In marker text) : call.start < call.stop := by
  rw [occurs.stop_eq]
  simp only [size]
  omega

theorem In.here?_drop (occurs : call.In marker text) :
    here? (opener marker) (text.drop call.start) =
      some (call.keyword, text.drop call.stop) := by
  have slice := occurs.slice
  have order := occurs.start_lt_stop
  rw [List.extract_eq_take_drop] at slice
  have rest : (text.drop call.start).drop (call.stop - call.start) = text.drop call.stop := by
    rw [List.drop_drop]
    congr 1
    omega
  refine here?_eq_some.mpr ⟨?_, occurs.nonempty, fun c member =>
    isKeywordChar_iff.mpr (occurs.filled c member)⟩
  calc
    text.drop call.start
      = (text.drop call.start).take (call.stop - call.start) ++
          (text.drop call.start).drop (call.stop - call.start) := (List.take_append_drop _ _).symm
    _ = opener marker ++ call.keyword ++ '"' :: ')' :: text.drop call.stop := by
      rw [slice, rest]
      simp [opener]

theorem in_of_here? {position : Nat} {keyword rest : List Char}
    (found : here? (opener marker) (text.drop position) = some (keyword, rest)) :
    In marker text ⟨position, position + size marker keyword, keyword⟩ ∧
      rest = text.drop (position + size marker keyword) := by
  obtain ⟨shape, nonempty, filled⟩ := here?_eq_some.mp found
  have whole : text.drop position =
      (marker ++ ['(', '"'] ++ keyword ++ ['"', ')']) ++ rest := by
    rw [shape]
    simp [opener]
  have long : (marker ++ ['(', '"'] ++ keyword ++ ['"', ')']).length = size marker keyword := by
    simp only [List.length_append, List.length_cons, List.length_nil, size]
    omega
  have lengths := congrArg List.length whole
  rw [List.length_drop, List.length_append, long] at lengths
  have positive : 0 < size marker keyword := by simp only [size]; omega
  constructor
  · refine ⟨?_, ?_, nonempty, fun c member => isKeywordChar_iff.mp (filled c member)⟩
    · change position + size marker keyword ≤ text.length
      omega
    · rw [List.extract_eq_take_drop, whole, ← long, Nat.add_sub_cancel_left, List.take_left]
  · rw [← List.drop_drop, whole, ← long, List.drop_left]

theorem In.eq_of_start (occurs : call.In marker text) (also : other.In marker text)
    (same : call.start = other.start) : call = other := by
  have found := occurs.here?_drop
  rw [same, also.here?_drop] at found
  have keywords : other.keyword = call.keyword := (Prod.mk.inj (Option.some.inj found)).1
  have stops : other.stop = call.stop := by rw [also.stop_eq, occurs.stop_eq, same, keywords]
  cases call
  cases other
  simp_all

theorem In.start_ne {position : Nat} (occurs : call.In marker text)
    (missing : here? (opener marker) (text.drop position) = none) : call.start ≠ position := by
  rintro rfl
  rw [occurs.here?_drop] at missing
  cases missing

theorem In.start_lt_length (occurs : call.In marker text) : call.start < text.length :=
  Nat.lt_of_lt_of_le occurs.start_lt_stop occurs.bound

end Occurrence

end KeywordHarvest.Call
