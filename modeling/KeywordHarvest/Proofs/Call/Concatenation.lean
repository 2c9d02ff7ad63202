import KeywordHarvest.Proofs.Call.Search
import KeywordHarvest.Proofs.Call.Unquoted

/-! Extraction from a text that is put together from two. The calls of either part are calls of the
whole, and since no two calls overlap at most one call lies across the cut. A marker without a line
feed has no call across the end of a line, so with such a marker a text can be searched line by
line. -/

namespace KeywordHarvest.Call

variable {marker text keyword rest first second : List Char} {count : Nat}

theorem here?_drop_inside (unquoted : '"' ∉ marker) (nonempty : marker ≠ [])
    (opens : marker.head? ≠ some ')') (found : here? (opener marker) text = some (keyword, rest))
    (positive : 0 < count) (inside : count + rest.length < text.length) :
    here? (opener marker) (text.drop count) = none := by
  refine Option.eq_none_iff_forall_ne_some.mpr fun ⟨other, after⟩ again => ?_
  rw [← List.drop_zero (l := text)] at found
  obtain ⟨occurs, remains⟩ := Occurrence.in_of_here? found
  obtain ⟨also, _⟩ := Occurrence.in_of_here? again
  have order := occurs.stop_le_start unquoted nonempty opens also positive
  have lengths := congrArg List.length remains
  rw [List.length_drop] at lengths
  simp only at order
  omega

theorem exists_lacking (missing : here? (opener marker) first = none)
    (found : here? (opener marker) (first ++ second) = some (keyword, rest)) :
    ∃ back, back ≠ [] ∧ second = back ++ rest ∧
      opener marker ++ keyword ++ ['"', ')'] = first ++ back := by
  obtain ⟨shape, filled⟩ := here?_eq_some.mp found
  have shape : first ++ second = (opener marker ++ keyword ++ ['"', ')']) ++ rest := by
    rw [shape]
    simp
  have outside (back : List Char) : first ≠ opener marker ++ keyword ++ ['"', ')'] ++ back := by
    rintro rfl
    have read : here? (opener marker) (opener marker ++ keyword ++ ['"', ')'] ++ back) =
        some (keyword, back) :=
      here?_eq_some.mpr ⟨by simp, filled⟩
    cases missing.symm.trans read
  rcases List.append_eq_append_iff.mp shape with ⟨back, call, tail⟩ | ⟨back, front, _⟩
  · refine ⟨back, ?_, tail, call⟩
    rintro rfl
    exact outside [] (by rw [call]; simp)
  · exact absurd front (outside back)

structure Straddles (marker first second keyword : List Char) : Prop where
  filled : ∀ c ∈ keyword, isKeywordChar c
  parts : ∃ front back, front ≠ [] ∧ back ≠ [] ∧ front <:+ first ∧ back <+: second ∧
    opener marker ++ keyword ++ ['"', ')'] = front ++ back

theorem Straddles.widen {longer : List Char} (suffix : first <:+ longer)
    (across : Straddles marker first second keyword) : Straddles marker longer second keyword := by
  obtain ⟨front, back, present, remains, ending, beginning, call⟩ := across.parts
  exact ⟨across.filled, front, back, present, remains, ending.trans suffix, beginning, call⟩

theorem keywords_across (unquoted : '"' ∉ marker) (nonempty : marker ≠ [])
    (opens : marker.head? ≠ some ')') (present : first ≠ [])
    (missing : here? (opener marker) first = none)
    (found : here? (opener marker) (first ++ second) = some (keyword, rest)) :
    keywords (opener marker) first = [] ∧
      keywords (opener marker) second = keywords (opener marker) rest := by
  obtain ⟨back, _, rfl, _⟩ := exists_lacking missing found
  have long : 0 < first.length := List.length_pos_iff.mpr present
  have absent (place : Nat) (positive : 0 < place) (inside : place < first.length + back.length) :
      here? (opener marker) ((first ++ (back ++ rest)).drop place) = none := by
    apply here?_drop_inside unquoted nonempty opens found positive
    simp only [List.length_append]
    omega
  constructor
  · rw [keywords_drop first.length fun place before => ?_, List.drop_length,
      keywords_nil]
    rcases Nat.eq_zero_or_pos place with rfl | positive
    · exact missing
    · refine Option.eq_none_iff_forall_ne_some.mpr fun ⟨own, after⟩ read => ?_
      have whole := here?_append_of_some read (back ++ rest)
      rw [← List.drop_append_of_le_length (Nat.le_of_lt before),
        absent place positive (by omega)] at whole
      cases whole
  · rw [keywords_drop back.length fun place before => ?_, List.drop_left]
    have beyond := absent (first.length + place) (by omega) (by omega)
    rwa [List.drop_length_add_append] at beyond

theorem keywords_append_eq (unquoted : '"' ∉ marker) (nonempty : marker ≠ [])
    (opens : marker.head? ≠ some ')') (first second : List Char) :
    ∃ between : Option (List Char),
      keywords (opener marker) (first ++ second) =
        keywords (opener marker) first ++ between.toList ++ keywords (opener marker) second ∧
      ∀ keyword ∈ between, Straddles marker first second keyword := by
  -- A call that is read in the first part is read in the whole. Where none is read there, the whole
  -- has none either, or one that lies across the cut.
  fun_induction keywords (opener marker) first with
  | case1 => exact ⟨none, by simp, by simp⟩
  | case2 c text keyword rest found _ ih =>
      obtain ⟨between, same, across⟩ := ih
      have suffix : rest <:+ c :: text := by
        rw [(here?_eq_some.mp found).1]
        exact ⟨opener marker ++ keyword ++ ['"', ')'], by simp⟩
      refine ⟨between, ?_, fun own member => (across own member).widen suffix⟩
      rw [keywords_of_here? (here?_append_of_some found second), same]
      simp
  | case3 c text missing ih =>
      cases found : here? (opener marker) (c :: text ++ second) with
      | none =>
          obtain ⟨between, same, across⟩ := ih
          exact ⟨between, (keywords_of_none found).trans same, fun own member =>
            (across own member).widen (List.suffix_cons c text)⟩
      | some result =>
          obtain ⟨keyword, rest⟩ := result
          obtain ⟨before, after⟩ :=
            keywords_across unquoted nonempty opens (List.cons_ne_nil c text) missing found
          obtain ⟨back, remains, tail, call⟩ := exists_lacking missing found
          rw [keywords_of_none missing] at before
          refine ⟨some keyword, ?_, fun own member => ?_⟩
          · rw [keywords_of_here? found, before, after]
            simp
          · cases Option.mem_some_iff.mp member
            exact ⟨(here?_eq_some.mp found).2.2, c :: text, back, List.cons_ne_nil c text, remains,
              List.suffix_refl _, ⟨rest, tail.symm⟩, call⟩

theorem not_straddles (lineless : '\n' ∉ marker) (ended : first.getLast? = some '\n') :
    ¬ Straddles marker first second keyword := by
  rintro ⟨filled, front, back, present, _, ending, _, call⟩
  have last : front.getLast? = some '\n' := by
    rw [List.getLast?_eq_some_getLast present, ending.getLast present,
      ← List.getLast?_eq_some_getLast]
    exact ended
  have feed : '\n' ∈ opener marker ++ keyword ++ ['"', ')'] := by
    rw [call]
    exact List.mem_append_left back (List.mem_of_getLast? last)
  have other : isKeywordChar '\n' = false := by decide +kernel
  have own : '\n' ∈ keyword := by simpa [opener, lineless] using feed
  rw [filled '\n' own] at other
  cases other

theorem keywords_append_of_ended (unquoted : '"' ∉ marker) (nonempty : marker ≠ [])
    (opens : marker.head? ≠ some ')') (lineless : '\n' ∉ marker)
    (ended : first.getLast? = some '\n') (second : List Char) :
    keywords (opener marker) (first ++ second) =
      keywords (opener marker) first ++ keywords (opener marker) second := by
  obtain ⟨between, same, across⟩ := keywords_append_eq unquoted nonempty opens first second
  cases between with
  | none => simpa using same
  | some keyword => exact absurd (across keyword rfl) (not_straddles lineless ended)

theorem keywords_intercalate (unquoted : '"' ∉ marker) (nonempty : marker ≠ [])
    (opens : marker.head? ≠ some ')') (lineless : '\n' ∉ marker) (lines : List (List Char)) :
    keywords (opener marker) (['\n'].intercalate lines) =
      lines.flatMap (keywords (opener marker)) := by
  induction lines with
  | nil => simp
  | cons line lines ih =>
      cases lines with
      | nil => simp
      | cons following others =>
          rw [List.intercalate_cons_cons, keywords_append_of_ended unquoted nonempty opens lineless
            (by simp), keywords_append line (by decide), ih]
          rfl

/-- Between the keywords of two texts, those of the whole have one more at most, and none where the
first text ends a line and the marker holds no line feed. With such a marker the keywords of a text
are those of its lines. -/
theorem extract_append (marker : Marker) (unquoted : '"' ∉ marker.text.toList)
    (opens : marker.text.toList.head? ≠ some ')') :
    (∀ first second : String, ∃ between : Option String,
      extract marker.text (first ++ second) =
        .ok (marker.keywords first ++ between.toList ++ marker.keywords second) ∧
      ('\n' ∉ marker.text.toList → first.toList.getLast? = some '\n' → between = none)) ∧
    ('\n' ∉ marker.text.toList → ∀ text : String, extract marker.text text =
      .ok ((text.toList.splitOn '\n').flatMap fun line => marker.keywords (String.ofList line))) := by
  have nonempty : marker.text.toList ≠ [] := by simpa using marker.nonempty
  constructor
  · intro first second
    obtain ⟨between, same, across⟩ :=
      keywords_append_eq unquoted nonempty opens first.toList second.toList
    refine ⟨between.map String.ofList, ?_, fun lineless ended => ?_⟩
    · rw [extract_text, Marker.keywords, String.toList_append, same]
      cases between <;> simp [Marker.keywords]
    · cases between with
      | none => rfl
      | some keyword => exact absurd (across keyword rfl) (not_straddles lineless ended)
  · intro lineless text
    have lines := keywords_intercalate unquoted nonempty opens lineless (text.toList.splitOn '\n')
    rw [List.intercalate_splitOn] at lines
    rw [extract_text, Marker.keywords, lines, List.map_flatMap]
    simp [Marker.keywords]

theorem extract_append_cut :
    '"' ∉ doubledMarker.text.toList ∧ doubledMarker.text.toList.head? ≠ some ')' ∧
      '\n' ∉ doubledMarker.text.toList ∧ "aa(\"x\")\n".toList.getLast? = some '\n' ∧
      (∃ between : Option String, between = some "group" ∧
        extract doubledMarker.text ("aaa(\"x\")aa(\"gr" ++ "oup\")aa(\"y\")") =
          .ok (["x"] ++ between.toList ++ ["y"])) ∧
      extract doubledMarker.text ("aa(\"x\")\n" ++ "(\"w\")aa(\"y\")") = .ok ["x", "y"] ∧
      extract doubledMarker.text "aa(\"x\")\naa(\"gr\noup\")\naa(\"y\")" = .ok ["x", "y"] := by
  have unquoted : '"' ∉ doubledMarker.text.toList := by decide
  have opens : doubledMarker.text.toList.head? ≠ some ')' := by decide
  have lineless : '\n' ∉ doubledMarker.text.toList := by decide
  have ended : "aa(\"x\")\n".toList.getLast? = some '\n' := by decide
  obtain ⟨cut, whole⟩ := extract_append doubledMarker unquoted opens
  refine ⟨unquoted, opens, lineless, ended, ?_, ?_, ?_⟩
  · obtain ⟨between, same, _⟩ := cut "aaa(\"x\")aa(\"gr" "oup\")aa(\"y\")"
    have before : doubledMarker.keywords "aaa(\"x\")aa(\"gr" = ["x"] := by decide +kernel
    have after : doubledMarker.keywords "oup\")aa(\"y\")" = ["y"] := by decide +kernel
    have known : doubledMarker.keywords ("aaa(\"x\")aa(\"gr" ++ "oup\")aa(\"y\")") =
        ["x", "group", "y"] := by
      decide +kernel
    rw [before, after] at same
    refine ⟨between, ?_, same⟩
    rw [extract_text, known] at same
    have lists := Except.ok.inj same
    cases between with
    | none => simp at lists
    | some keyword => simpa using lists.symm
  · obtain ⟨between, same, apart⟩ := cut "aa(\"x\")\n" "(\"w\")aa(\"y\")"
    have before : doubledMarker.keywords "aa(\"x\")\n" = ["x"] := by decide +kernel
    have after : doubledMarker.keywords "(\"w\")aa(\"y\")" = ["y"] := by decide +kernel
    rw [same, apart lineless ended, before, after]
    rfl
  · rw [whole lineless]
    exact congrArg Except.ok (by decide +kernel)

end KeywordHarvest.Call
