import KeywordHarvest.Proofs.Call.Leftmost

/-! Calls of a marker without quotes. Up to the first quote from its start such a call is the marker
and its parenthesis, and no keyword holds a parenthesis, so a call can start inside another one only
at the closing parenthesis. Where the marker does not start with that, no two calls overlap, and the
search, which goes on after each call it has found, misses none. -/

namespace KeywordHarvest.Call

variable {marker text keyword : List Char} {count : Nat}

def beforeQuote (text : List Char) : List Char := text.takeWhile (· ≠ '"')

theorem beforeQuote_append {front : List Char} (unquoted : '"' ∉ front) (rest : List Char) :
    beforeQuote (front ++ '"' :: rest) = front := by
  have plain : ∀ c ∈ front, decide (c ≠ '"') = true := by
    intro c member
    apply decide_eq_true
    rintro rfl
    exact unquoted member
  rw [beforeQuote, List.takeWhile_append_of_pos plain]
  simp

theorem beforeQuote_drop {front : List Char} (unquoted : '"' ∉ front)
    (within : count ≤ front.length) (rest : List Char) : beforeQuote ((front ++ '"' :: rest).drop count) = front.drop count := by
  rw [List.drop_append_of_le_length within]
  exact beforeQuote_append (mt List.mem_of_mem_drop unquoted) rest

theorem opener_eq (marker : List Char) : opener marker = (marker ++ ['(']) ++ ['"'] := by
  simp [opener]

theorem not_mem_opening (unquoted : '"' ∉ marker) : '"' ∉ marker ++ ['('] := by
  simp [unquoted]

theorem beforeQuote_opener (unquoted : '"' ∉ marker) (rest : List Char) :
    beforeQuote (opener marker ++ rest) = marker ++ ['('] := by
  rw [opener_eq, List.append_assoc]
  exact beforeQuote_append (not_mem_opening unquoted) rest

theorem here?_of_beforeQuote_ne (unquoted : '"' ∉ marker)
    (differs : beforeQuote text ≠ marker ++ ['(']) : here? (opener marker) text = none := by
  refine Option.eq_none_iff_forall_ne_some.mpr fun ⟨keyword, rest⟩ found => differs ?_
  rw [(here?_eq_some.mp found).1, List.append_assoc]
  exact beforeQuote_opener unquoted _

theorem here?_drop_opener (unquoted : '"' ∉ marker) (positive : 0 < count)
    (within : count ≤ marker.length + 1) (rest : List Char) :
    here? (opener marker) ((opener marker ++ rest).drop count) = none := by
  apply here?_of_beforeQuote_ne unquoted
  intro same
  have short : count ≤ (marker ++ ['(']).length := by simpa using within
  rw [opener_eq, List.append_assoc, List.singleton_append,
    beforeQuote_drop (not_mem_opening unquoted) short] at same
  have lengths := congrArg List.length same
  rw [List.length_drop] at lengths
  omega

theorem here?_drop_keyword (unquoted : '"' ∉ marker) (filled : ∀ c ∈ keyword, isKeywordChar c)
    (within : count ≤ keyword.length) (rest : List Char) :
    here? (opener marker) ((keyword ++ '"' :: rest).drop count) = none := by
  have absent {c : Char} (other : isKeywordChar c = false) : c ∉ keyword := by
    intro member
    rw [filled c member] at other
    cases other
  apply here?_of_beforeQuote_ne unquoted
  intro same
  rw [beforeQuote_drop (absent not_isKeywordChar_quote) within] at same
  have opening : '(' ∈ keyword.drop count := by simp [same]
  exact absent (by decide +kernel) (List.mem_of_mem_drop opening)

theorem here?_closing (nonempty : marker ≠ []) (opens : marker.head? ≠ some ')')
    (rest : List Char) : here? (opener marker) (')' :: rest) = none := by
  refine Option.eq_none_iff_forall_ne_some.mpr fun ⟨keyword, after⟩ found => opens ?_
  have shape := (here?_eq_some.mp found).1
  cases marker with
  | nil => exact absurd rfl nonempty
  | cons c marker =>
      obtain ⟨rfl, _⟩ := List.cons.inj shape
      rfl

namespace Occurrence

variable {call other : Occurrence}

theorem In.drop_start (occurs : call.In marker text) : text.drop call.start =
    opener marker ++ (call.keyword ++ '"' :: ')' :: text.drop call.stop) := by
  rw [(here?_eq_some.mp occurs.here?_drop).1, List.append_assoc]

theorem In.drop_opener (occurs : call.In marker text) :
    text.drop (call.start + marker.length + 2) =
      call.keyword ++ '"' :: ')' :: text.drop call.stop := by
  have width : (opener marker).length = marker.length + 2 := by simp [opener]
  rw [Nat.add_assoc, ← width, ← List.drop_drop, occurs.drop_start, List.drop_left]

theorem In.drop_quote (occurs : call.In marker text) :
    text.drop (call.stop - 1) = ')' :: text.drop call.stop := by
  have last : call.stop - 1 =
      call.start + marker.length + 2 + (call.keyword ++ ['"']).length := by
    rw [occurs.stop_eq, size, List.length_append, List.length_singleton]
    omega
  have ending : text.drop (call.start + marker.length + 2) =
      (call.keyword ++ ['"']) ++ ')' :: text.drop call.stop := by
    rw [occurs.drop_opener, List.append_assoc, List.singleton_append]
  rw [last, ← List.drop_drop, ending, List.drop_left]

theorem In.stop_le_start (unquoted : '"' ∉ marker) (nonempty : marker ≠ [])
    (opens : marker.head? ≠ some ')') (occurs : call.In marker text) (also : other.In marker text)
    (before : call.start < other.start) : call.stop ≤ other.start := by
  have filled : ∀ c ∈ call.keyword, isKeywordChar c := fun c member =>
    isKeywordChar_iff.mpr (occurs.filled c member)
  have ends := occurs.stop_eq
  have read := also.here?_drop
  unfold size at ends
  apply Nat.le_of_not_lt
  intro inside
  -- The other call would start in the opener, in the keyword or at the quote after it, or at the
  -- parenthesis.
  rcases Nat.lt_or_ge other.start (call.start + marker.length + 2) with near | beyond
  · obtain ⟨count, place⟩ := Nat.exists_eq_add_of_lt before
    rw [place, Nat.add_assoc, ← List.drop_drop, occurs.drop_start,
      here?_drop_opener unquoted (by omega) (by omega)] at read
    cases read
  rcases Nat.lt_or_ge other.start (call.stop - 1) with within | last
  · obtain ⟨count, place⟩ := Nat.exists_eq_add_of_le beyond
    rw [place, ← List.drop_drop, occurs.drop_opener,
      here?_drop_keyword unquoted filled (by omega)] at read
    cases read
  · have place : other.start = call.stop - 1 := by omega
    rw [place, occurs.drop_quote, here?_closing nonempty opens] at read
    cases read

theorem In.apart (unquoted : '"' ∉ marker) (nonempty : marker ≠ [])
    (opens : marker.head? ≠ some ')') (occurs : call.In marker text) (also : other.In marker text)
    (different : call ≠ other) : call.stop ≤ other.start ∨ other.stop ≤ call.start := by
  rcases Nat.lt_trichotomy call.start other.start with before | same | after
  · exact .inl (occurs.stop_le_start unquoted nonempty opens also before)
  · exact absurd (occurs.eq_of_start also same) different
  · exact .inr (also.stop_le_start unquoted nonempty opens occurs after)

end Occurrence

namespace Leftmost

variable {position : Nat} {calls : List Occurrence}

theorem sublist (scan : Leftmost marker text position calls)
    (disjoint : ∀ call other : Occurrence, call.In marker text → other.In marker text →
      call.start < other.start → call.stop ≤ other.start)
    {others : List Occurrence}
    (increasing : others.Pairwise fun call later => call.start < later.start)
    (occur : ∀ call ∈ others, call.In marker text ∧ position ≤ call.start) :
    others.Sublist calls := by
  -- The first of the others is the call that the scan takes next, or they all start after its end.
  induction scan generalizing others with
  | done finished =>
      cases others with
      | nil => exact List.Sublist.refl []
      | cons other others =>
          obtain ⟨also, ahead⟩ := occur other List.mem_cons_self
          exact absurd (finished other also) (Nat.not_lt.mpr ahead)
  | @next position call calls occurs _ least _ ih =>
      cases others with
      | nil => exact List.nil_sublist _
      | cons other others =>
          obtain ⟨also, ahead⟩ := occur other List.mem_cons_self
          obtain ⟨after, increasing'⟩ := List.pairwise_cons.mp increasing
          rcases Nat.eq_or_lt_of_le (least other also ahead) with same | later
          · rw [also.eq_of_start occurs same.symm] at after ⊢
            refine (ih increasing' fun own member => ?_).cons_cons call
            have own_in := (occur own (List.mem_cons_of_mem _ member)).1
            exact ⟨own_in, disjoint call own occurs own_in (after own member)⟩
          · refine (ih increasing fun own member => ?_).cons call
            have own_in := (occur own member).1
            refine ⟨own_in, disjoint call own occurs own_in ?_⟩
            rcases List.mem_cons.mp member with rfl | member
            · exact later
            · exact Nat.lt_trans later (after own member)

theorem mem_of_in (scan : Leftmost marker text position calls)
    (disjoint : ∀ call other : Occurrence, call.In marker text → other.In marker text →
      call.start < other.start → call.stop ≤ other.start)
    {call : Occurrence} (occurs : call.In marker text) (ahead : position ≤ call.start) :
    call ∈ calls := by
  refine List.singleton_sublist.mp (scan.sublist disjoint (List.pairwise_singleton _ _) ?_)
  intro own member
  rw [List.mem_singleton.mp member]
  exact ⟨occurs, ahead⟩

theorem increasing (scan : Leftmost marker text position calls) :
    calls.Pairwise fun call later => call.start < later.start := by
  refine scan.pairwise.imp_of_mem fun member _ order => ?_
  have span := (scan.start_ge _ member).1.start_lt_stop
  omega

end Leftmost

/-- For a marker that holds no quote and does not start with a closing parenthesis, no two calls
overlap, and extraction gives the keywords of all calls at whatever position, in order. -/
theorem extract_every_call (marker : Marker) (unquoted : '"' ∉ marker.text.toList)
    (opens : marker.text.toList.head? ≠ some ')') (text : String) :
    (∀ call other : Occurrence, call.In marker.text.toList text.toList →
        other.In marker.text.toList text.toList → call ≠ other →
        call.stop ≤ other.start ∨ other.stop ≤ call.start) ∧
      ∃ calls : List Occurrence,
        (calls.Pairwise fun call later => call.start < later.start) ∧
        (∀ call, call ∈ calls ↔ call.In marker.text.toList text.toList) ∧
        extract marker.text text = .ok (calls.map fun call => String.ofList call.keyword) := by
  have nonempty : marker.text.toList ≠ [] := by simpa using marker.nonempty
  obtain ⟨calls, scan, same⟩ := exists_leftmost marker.text.toList text.toList 0
  refine ⟨fun call other occurs also => occurs.apart unquoted nonempty opens also,
    calls, scan.increasing, fun call => ?_, ?_⟩
  · constructor
    · intro member
      exact (scan.start_ge call member).1
    · intro occurs
      apply scan.mem_of_in _ occurs (Nat.zero_le _)
      intro first later occurs' also before
      exact occurs'.stop_le_start unquoted nonempty opens also before
  · rw [List.drop_zero] at same
    rw [extract_text, Marker.keywords, same, List.map_map]
    rfl

/-- The marker overlaps with itself, stands in a keyword, and comes right after a call. -/
def crowdedText : String := "aaa(\"x\")aa(\"aa\")aa('y')aa"

def doubledMarker : Marker := ⟨"aa", by decide, by decide⟩

theorem extract_every_call_crowded :
    '"' ∉ doubledMarker.text.toList ∧ doubledMarker.text.toList.head? ≠ some ')' ∧
      ∃ calls : List Occurrence,
        (∀ call, call ∈ calls ↔ call.In doubledMarker.text.toList crowdedText.toList) ∧
        (calls.map fun call => String.ofList call.keyword) = ["x", "aa"] := by
  have unquoted : '"' ∉ doubledMarker.text.toList := by decide
  have opens : doubledMarker.text.toList.head? ≠ some ')' := by decide
  have known : doubledMarker.keywords crowdedText = ["x", "aa"] := by decide +kernel
  obtain ⟨_, calls, _, every, extracted⟩ :=
    extract_every_call doubledMarker unquoted opens crowdedText
  rw [extract_text, known] at extracted
  exact ⟨unquoted, opens, calls, every, (Except.ok.inj extracted).symm⟩

/-- A call that starts at the closing parenthesis of another one is lost. -/
example : Marker.keywords ⟨")", by decide, by decide⟩ ")(\"a\")(\"b\")" = ["a"] := by
  decide +kernel

end KeywordHarvest.Call
