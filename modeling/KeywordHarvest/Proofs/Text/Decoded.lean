import KeywordHarvest.Proofs.Text.RoundTrip

/-! What decoding accepts. The bytes fed to the decoder so far are those of the characters it has
found, followed by the beginning of one more character where it still owes bytes, unless it has found
something ill-formed. So a byte string is text exactly when it is the encoding of that text. -/

namespace KeywordHarvest.Text

variable {byte : UInt8} {bytes begun : Bytes} {owed : Owed} {lead middle bits : Nat}

theorem val_ofNat {code : Nat} (valid : code < 0xD800 ∨ 0xDFFF < code ∧ code < 0x110000) :
    (Char.ofNat code).val.toNat = code := by
  have accepted : code.isValidChar := valid
  rw [Char.ofNat, dif_pos accepted]
  rfl

theorem encodeChar_one {code : Nat} (one : code < 0x80) :
    String.utf8EncodeChar (Char.ofNat code) = [.ofNat code] := by
  have value : (Char.ofNat code).val.toNat = code := val_ofNat (by omega)
  simp only [String.utf8EncodeChar, value]
  rw [if_pos (by omega)]

theorem encodeChar_two (more : 2 ≤ lead) (few : lead < 0x20) (small : bits < 64) :
    String.utf8EncodeChar (Char.ofNat (lead * 64 + bits)) =
      [.ofNat (lead + 0xC0), .ofNat (bits + 0x80)] := by
  have value : (Char.ofNat (lead * 64 + bits)).val.toNat = lead * 64 + bits :=
    val_ofNat (by omega)
  have front : (lead * 64 + bits) / 64 % 0x20 = lead := by omega
  have last : (lead * 64 + bits) % 0x40 = bits := by omega
  simp only [String.utf8EncodeChar, value]
  rw [if_neg (by omega), if_pos (by omega), front, last]

theorem encodeChar_three (few : lead < 0x10) (inner : middle < 64) (small : bits < 64)
    (shortest : lead = 0 → 0x20 ≤ middle) (scalar : lead = 13 → middle < 0x20) :
    String.utf8EncodeChar (Char.ofNat ((lead * 64 + middle) * 64 + bits)) =
      [.ofNat (lead + 0xE0), .ofNat (middle + 0x80), .ofNat (bits + 0x80)] := by
  have value : (Char.ofNat ((lead * 64 + middle) * 64 + bits)).val.toNat =
      (lead * 64 + middle) * 64 + bits :=
    val_ofNat (by omega)
  have front : ((lead * 64 + middle) * 64 + bits) / 4096 % 0x10 = lead := by omega
  have second : ((lead * 64 + middle) * 64 + bits) / 64 % 0x40 = middle := by omega
  have last : ((lead * 64 + middle) * 64 + bits) % 0x40 = bits := by omega
  simp only [String.utf8EncodeChar, value]
  rw [if_neg (by omega), if_neg (by omega), if_pos (by omega), front, second, last]

theorem encodeChar_four {next : Nat} (few : lead < 5) (inner : middle < 64) (inner' : next < 64)
    (small : bits < 64) (shortest : lead = 0 → 0x10 ≤ middle) (scalar : lead = 4 → middle < 0x10) :
    String.utf8EncodeChar (Char.ofNat (((lead * 64 + middle) * 64 + next) * 64 + bits)) =
      [.ofNat (lead + 0xF0), .ofNat (middle + 0x80), .ofNat (next + 0x80), .ofNat (bits + 0x80)] := by
  have value : (Char.ofNat (((lead * 64 + middle) * 64 + next) * 64 + bits)).val.toNat =
      ((lead * 64 + middle) * 64 + next) * 64 + bits :=
    val_ofNat (by omega)
  have front : (((lead * 64 + middle) * 64 + next) * 64 + bits) / 262144 % 0x08 = lead := by omega
  have second : (((lead * 64 + middle) * 64 + next) * 64 + bits) / 4096 % 0x40 = middle := by omega
  have third : (((lead * 64 + middle) * 64 + next) * 64 + bits) / 64 % 0x40 = next := by omega
  have last : (((lead * 64 + middle) * 64 + next) * 64 + bits) % 0x40 = bits := by omega
  simp only [String.utf8EncodeChar, value]
  rw [if_neg (by omega), if_neg (by omega), if_neg (by omega), front, second, third, last]

theorem start_none : ∀ code < 0x100, 0x80 ≤ code ∧ code < 0xC2 ∨ 0xF5 ≤ code →
    start (.ofNat code) = .inl none := by
  decide +kernel

inductive Starts : UInt8 → Piece ⊕ Owed → Prop
  | one {code : Nat} (one : code < 0x80) : Starts (.ofNat code) (.inl (some (Char.ofNat code)))
  | two {lead : Nat} (more : 2 ≤ lead) (few : lead < 0x20) :
      Starts (.ofNat (lead + 0xC0)) (.inr ⟨lead, 1, 0x80, 0xBF⟩)
  | three {lead : Nat} (few : lead < 0x10) : Starts (.ofNat (lead + 0xE0))
      (.inr ⟨lead, 2, if lead = 0 then 0xA0 else 0x80, if lead = 13 then 0x9F else 0xBF⟩)
  | four {lead : Nat} (few : lead < 5) : Starts (.ofNat (lead + 0xF0))
      (.inr ⟨lead, 3, if lead = 0 then 0x90 else 0x80, if lead = 4 then 0x8F else 0xBF⟩)
  | nothing (byte : UInt8) : Starts byte (.inl none)

theorem starts_start (byte : UInt8) : Starts byte (start byte) := by
  obtain ⟨code, small, rfl⟩ : ∃ code < 0x100, byte = .ofNat code :=
    ⟨byte.toNat, byte.toNat_lt, (UInt8.ofNat_toNat).symm⟩
  by_cases one : code < 0x80
  · rw [start_one code one]
    exact .one one
  by_cases two : 0xC2 ≤ code ∧ code < 0xE0
  · obtain ⟨lead, rfl⟩ := Nat.exists_eq_add_of_le' (show 0xC0 ≤ code by omega)
    rw [start_two lead (by omega) (by omega)]
    exact .two (by omega) (by omega)
  by_cases three : 0xE0 ≤ code ∧ code < 0xF0
  · obtain ⟨lead, rfl⟩ := Nat.exists_eq_add_of_le' three.1
    rw [start_three lead (by omega)]
    exact .three (by omega)
  by_cases four : 0xF0 ≤ code ∧ code < 0xF5
  · obtain ⟨lead, rfl⟩ := Nat.exists_eq_add_of_le' four.1
    rw [start_four lead (by omega)]
    exact .four (by omega)
  · rw [start_none code small (by omega)]
    exact .nothing _

/-- The beginning of a character, with what it still owes. -/
inductive Partway : Bytes → Owed → Prop
  | start {byte : UInt8} {owed : Owed} (starts : Text.start byte = .inr owed) :
      Partway [byte] owed
  | more {begun : Bytes} {owed : Owed} {byte : UInt8} (before : Partway begun owed)
      (accepted : owed.accepts byte = true) (unfinished : owed.left ≠ 1) :
      Partway (begun ++ [byte])
        ⟨owed.code * 64 + (byte.toNat - 0x80), owed.left - 1, 0x80, 0xBF⟩

namespace Partway

theorem bounds (partway : Partway begun owed) :
    owed.left ≤ 3 ∧ 0x80 ≤ owed.low.toNat ∧ owed.high.toNat ≤ 0xBF := by
  induction partway with
  | @start byte owed starts =>
      have starting := starts_start byte
      rw [starts] at starting
      cases starting with
      | two more few => simp
      | three few => refine ⟨by simp, ?_, ?_⟩ <;> simp only <;> split <;> decide
      | four few => refine ⟨by simp, ?_, ?_⟩ <;> simp only <;> split <;> decide
  | more _ _ _ ih => exact ⟨Nat.le_trans (Nat.sub_le _ _) ih.1, by simp⟩

theorem exists_bits (partway : Partway begun owed) (accepted : owed.accepts byte = true) :
    ∃ bits < 64, byte = .ofNat (bits + 0x80) ∧ byte.toNat - 0x80 = bits ∧
      owed.low.toNat ≤ bits + 0x80 ∧ bits + 0x80 ≤ owed.high.toNat := by
  obtain ⟨_, low, high⟩ := partway.bounds
  simp only [Owed.accepts, Bool.and_eq_true, decide_eq_true_eq, UInt8.le_iff_toNat_le] at accepted
  obtain ⟨above, below⟩ := accepted
  have whole : byte.toNat - 0x80 + 0x80 = byte.toNat := by omega
  refine ⟨byte.toNat - 0x80, by omega, ?_, rfl, by omega, by omega⟩
  rw [whole, UInt8.ofNat_toNat]

theorem of_three_left (partway : Partway begun owed) (left : owed.left = 3) :
    ∃ lead < 5, begun = [.ofNat (lead + 0xF0)] ∧
      owed = ⟨lead, 3, if lead = 0 then 0x90 else 0x80, if lead = 4 then 0x8F else 0xBF⟩ := by
  cases partway with
  | @start byte _ starts =>
      have starting := starts_start byte
      rw [starts] at starting
      cases starting with
      | two more few => cases left
      | three few => cases left
      | four few => exact ⟨_, few, rfl, rfl⟩
  | more before _ _ =>
      have bound := before.bounds.1
      simp only at left
      omega

theorem of_two_left (partway : Partway begun owed) (left : owed.left = 2) :
    (∃ lead < 0x10, begun = [.ofNat (lead + 0xE0)] ∧
      owed = ⟨lead, 2, if lead = 0 then 0xA0 else 0x80, if lead = 13 then 0x9F else 0xBF⟩) ∨
    ∃ lead < 5, ∃ middle < 64, (lead = 0 → 0x10 ≤ middle) ∧ (lead = 4 → middle < 0x10) ∧
      begun = [.ofNat (lead + 0xF0), .ofNat (middle + 0x80)] ∧
      owed = ⟨lead * 64 + middle, 2, 0x80, 0xBF⟩ := by
  cases partway with
  | @start byte _ starts =>
      have starting := starts_start byte
      rw [starts] at starting
      cases starting with
      | two more few => cases left
      | three few => exact .inl ⟨_, few, rfl, rfl⟩
      | four few => cases left
  | more before accepted _ =>
      obtain ⟨lead, few, rfl, rfl⟩ := before.of_three_left (by simp only at left; omega)
      obtain ⟨middle, inner, rfl, value, above, below⟩ := before.exists_bits accepted
      refine .inr ⟨lead, few, middle, inner, ?_, ?_, rfl, by simp only [value]⟩
      · rintro rfl
        simpa using above
      · rintro rfl
        simp at below
        omega

theorem finish (partway : Partway begun owed) (last : owed.left = 1)
    (accepted : owed.accepts byte = true) :
    String.utf8EncodeChar (Char.ofNat (owed.code * 64 + (byte.toNat - 0x80))) =
      begun ++ [byte] := by
  obtain ⟨bits, small, rfl, value, _⟩ := partway.exists_bits accepted
  rw [value]
  cases partway with
  | @start byte _ starts =>
      have starting := starts_start byte
      rw [starts] at starting
      cases starting with
      | two more few => exact encodeChar_two more few small
      | three few => cases last
      | four few => cases last
  | more before accepted' _ =>
      obtain ⟨middle, inner, rfl, value', above, below⟩ := before.exists_bits accepted'
      simp only [value']
      rcases before.of_two_left (by simp only at last; omega) with
        ⟨lead, few, rfl, rfl⟩ | ⟨lead, few, second, inner', shortest, scalar, rfl, rfl⟩
      · refine encodeChar_three few inner small ?_ ?_
        · rintro rfl
          simpa using above
        · rintro rfl
          simp at below
          omega
      · exact encodeChar_four few inner' inner small shortest scalar

end Partway

namespace Decoding

/-- The bytes that the decoder has been fed, unless something ill-formed is among them. -/
def Reads (decoding : Decoding) (bytes : Bytes) : Prop :=
  ∀ chars : List Char, decoding.found = (chars.map some).reverse →
    match decoding.owed with
    | none => bytes = chars.flatMap String.utf8EncodeChar
    | some owed => ∃ begun, Partway begun owed ∧
        bytes = chars.flatMap String.utf8EncodeChar ++ begun

variable {found : List Piece}

theorem exists_concat {c : Char} {chars : List Char}
    (same : some c :: found = (chars.map some).reverse) :
    ∃ front, chars = front ++ [c] ∧ found = (front.map some).reverse := by
  rcases List.eq_nil_or_concat chars with rfl | ⟨front, last, rfl⟩
  · cases same
  · obtain ⟨rfl, rfl⟩ : c = last ∧ found = (front.map some).reverse := by simpa using same
    exact ⟨front, List.concat_eq_append, rfl⟩

theorem none_not_mem (chars : List Char) : none ∉ (chars.map some).reverse := by simp

theorem reads_of_none_mem {decoding : Decoding} (illFormed : none ∈ decoding.found)
    (bytes : Bytes) : decoding.Reads bytes := by
  intro chars same
  rw [same] at illFormed
  exact absurd illFormed (none_not_mem chars)

theorem reads_start (reads : Reads ⟨found, none⟩ bytes) (byte : UInt8) :
    (Decoding.start found byte).Reads (bytes ++ [byte]) := by
  have starting := starts_start byte
  unfold Decoding.start
  cases known : Text.start byte with
  | inl piece =>
      rw [known] at starting
      cases starting with
      | one one =>
          intro chars same
          obtain ⟨front, rfl, before⟩ := exists_concat same
          have done : bytes = front.flatMap String.utf8EncodeChar := reads front before
          simp [done, encodeChar_one one]
      | nothing => exact reads_of_none_mem List.mem_cons_self _
  | inr owed =>
      intro chars same
      have done : bytes = chars.flatMap String.utf8EncodeChar := reads chars same
      exact ⟨[byte], .start known, by rw [done]⟩

theorem none_mem_start (illFormed : none ∈ found) (byte : UInt8) :
    none ∈ (Decoding.start found byte).found := by
  unfold Decoding.start
  cases Text.start byte with
  | inl piece => exact List.mem_cons_of_mem piece illFormed
  | inr owed => exact illFormed

theorem reads_feed {decoding : Decoding} (reads : decoding.Reads bytes) (byte : UInt8) :
    (decoding.feed byte).Reads (bytes ++ [byte]) := by
  obtain ⟨found, expected⟩ := decoding
  cases expected with
  | none => exact reads_start reads byte
  | some owed =>
      rw [feed]
      by_cases accepted : owed.accepts byte = true
      · rw [if_pos accepted]
        simp only
        by_cases last : owed.left = 1
        · rw [if_pos last]
          intro chars same
          obtain ⟨front, rfl, before⟩ := exists_concat same
          obtain ⟨begun, partway, done⟩ := reads front before
          simp [done, partway.finish last accepted]
        · rw [if_neg last]
          intro chars same
          obtain ⟨begun, partway, done⟩ := reads chars same
          exact ⟨begun ++ [byte], partway.more accepted last, by rw [done, List.append_assoc]⟩
      · rw [if_neg accepted]
        exact reads_of_none_mem (none_mem_start List.mem_cons_self byte) _

theorem reads_foldl {decoding : Decoding} {before : Bytes} (reads : decoding.Reads before)
    (bytes : Bytes) : (bytes.foldl feed decoding).Reads (before ++ bytes) := by
  induction bytes generalizing decoding before with
  | nil => simpa using reads
  | cons byte bytes ih => simpa using ih (reads_feed reads byte)

end Decoding

theorem bytes_of_pieces {chars : List Char} (whole : pieces bytes = chars.map some) :
    bytes = chars.flatMap String.utf8EncodeChar := by
  have start : Decoding.Reads ⟨[], none⟩ [] := by
    intro chars same
    obtain rfl : chars = [] := by simpa using same.symm
    rfl
  have reads := Decoding.reads_foldl start bytes
  rw [List.nil_append] at reads
  unfold pieces at whole
  generalize bytes.foldl Decoding.feed ⟨[], none⟩ = decoding at reads whole
  obtain ⟨found, expected⟩ := decoding
  cases expected with
  | none => exact reads chars (by rw [← whole]; simp [Decoding.finish])
  | some owed =>
      have illFormed : none ∈ chars.map some := by
        rw [← whole]
        simp [Decoding.finish]
      simp at illFormed

theorem exists_chars {found : List Piece} (whole : found.all Option.isSome = true) :
    ∃ chars : List Char, found = chars.map some := by
  induction found with
  | nil => exact ⟨[], rfl⟩
  | cons piece found ih =>
      simp only [List.all_cons, Bool.and_eq_true] at whole
      obtain ⟨c, rfl⟩ := Option.isSome_iff_exists.mp whole.1
      obtain ⟨chars, rfl⟩ := ih whole.2
      exact ⟨c :: chars, rfl⟩

theorem decode?_eq_some {text : String} : decode? bytes = some text ↔ bytes = encode text := by
  constructor
  · intro decoded
    unfold decode? at decoded
    split at decoded
    case isFalse => cases decoded
    case isTrue whole =>
      obtain ⟨chars, same⟩ := exists_chars whole
      obtain rfl : String.ofList chars = text := by simpa [same] using decoded
      rw [encode, String.toList_ofList]
      exact bytes_of_pieces same
  · rintro rfl
    exact decode?_encode text

def IsForeign (bytes : Bytes) : Prop := ∀ text, bytes ≠ encode text

theorem decode?_eq_none : decode? bytes = none ↔ IsForeign bytes := by
  rw [Option.eq_none_iff_forall_ne_some]
  exact forall_congr' fun text => not_congr decode?_eq_some

end KeywordHarvest.Text
