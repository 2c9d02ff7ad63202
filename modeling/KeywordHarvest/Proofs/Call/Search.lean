import KeywordHarvest.Proofs.Call.Occurrence

/-! What the search for calls gives on a text, by recursion on the search. Every keyword is made of
keyword characters. Places where no call starts are passed over, and what a call is read from may
go on with any text. A text without a quote or without a closing parenthesis has no calls, and one
without a closing parenthesis does not add to the calls of the text that it follows, since no call
can end in it. -/

namespace KeywordHarvest.Call

variable {opener : List Char}

theorem not_isKeywordChar_closing : isKeywordChar ')' = false := by decide +kernel

theorem mem_keywords {text keyword : List Char} (member : keyword ∈ keywords opener text) :
    keyword ≠ [] ∧ ∀ c ∈ keyword, isKeywordChar c := by
  fun_induction keywords opener text with
  | case1 => cases member
  | case2 c text found rest here _ ih =>
      rcases List.mem_cons.mp member with rfl | later
      · exact (here?_eq_some.mp here).2
      · exact ih later
  | case3 c text _ ih => exact ih member

theorem here?_eq_none {text : List Char} (lacks : '"' ∉ text ∨ ')' ∉ text) :
    here? opener text = none := by
  refine Option.eq_none_iff_forall_ne_some.mpr fun ⟨keyword, rest⟩ found => ?_
  have shape := (here?_eq_some.mp found).1
  cases lacks with
  | inl unquoted => exact unquoted (by simp [shape])
  | inr closed => exact closed (by simp [shape])

theorem keywords_eq_nil {text : List Char} (lacks : '"' ∉ text ∨ ')' ∉ text) :
    keywords opener text = [] := by
  induction text with
  | nil => simp
  | cons c text ih =>
      rw [keywords_of_none (here?_eq_none lacks)]
      exact ih (lacks.imp (mt (List.mem_cons_of_mem c)) (mt (List.mem_cons_of_mem c)))

theorem keywords_drop {text : List Char} (count : Nat)
    (absent : ∀ place < count, here? opener (text.drop place) = none) :
    keywords opener text = keywords opener (text.drop count) := by
  induction count with
  | zero => rfl
  | succ count ih =>
      rw [ih fun place before => absent place (Nat.lt_succ_of_lt before)]
      have missing := absent count (Nat.lt_succ_self count)
      rw [← List.drop_drop, List.drop_one]
      cases left : text.drop count with
      | nil => rfl
      | cons c others => exact keywords_of_none (left ▸ missing)

theorem here?_append_of_some {text keyword rest : List Char}
    (found : here? opener text = some (keyword, rest)) (tail : List Char) :
    here? opener (text ++ tail) = some (keyword, rest ++ tail) := by
  obtain ⟨rfl, filled⟩ := here?_eq_some.mp found
  exact here?_eq_some.mpr ⟨by simp, filled⟩

theorem here?_append {text tail : List Char} (closed : ')' ∉ tail) :
    here? opener (text ++ tail) = (here? opener text).map fun (keyword, rest) =>
      (keyword, rest ++ tail) := by
  cases found : here? opener text with
  | some result => exact here?_append_of_some found tail
  | none =>
      refine Option.eq_none_iff_forall_ne_some.mpr fun ⟨keyword, rest⟩ whole => ?_
      obtain ⟨shape, filled⟩ := here?_eq_some.mp whole
      have shape : text ++ tail = (opener ++ keyword ++ ['"']) ++ (')' :: rest) := by
        rw [shape]
        simp
      rcases List.append_eq_append_iff.mp shape with ⟨between, _, ending⟩ | ⟨between, front, ending⟩
      · exact closed (by rw [ending]; simp)
      · cases between with
        | nil => exact closed (by rw [← List.nil_append tail, ← ending]; simp)
        | cons c between =>
            obtain ⟨rfl, rfl⟩ := List.cons.inj ending
            have missed : here? opener text = some (keyword, between) :=
              here?_eq_some.mpr ⟨by rw [front]; simp, filled⟩
            rw [found] at missed
            cases missed

theorem keywords_append {tail : List Char} (text : List Char) (closed : ')' ∉ tail) :
    keywords opener (text ++ tail) = keywords opener text := by
  fun_induction keywords opener text with
  | case1 => exact keywords_eq_nil (.inr closed)
  | case2 c text keyword rest found _ ih =>
      have whole : here? opener (c :: text ++ tail) = some (keyword, rest ++ tail) := by
        rw [here?_append closed, found]
        rfl
      rw [keywords_of_here? whole, ih]
  | case3 c text missing ih =>
      have whole : here? opener (c :: text ++ tail) = none := by
        rw [here?_append closed, missing]
        rfl
      exact (keywords_of_none whole).trans ih

end KeywordHarvest.Call
