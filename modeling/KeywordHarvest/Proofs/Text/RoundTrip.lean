import KeywordHarvest.Text.Utf8

/-! Decoding undoes encoding. The bytes of one character take the decoder from between characters
back there, with that character as its new piece; so an encoded text has its characters as pieces,
and is read back as it was. -/

namespace KeywordHarvest.Text

theorem start_one : ∀ code < 0x80, start (.ofNat code) = .inl (some (Char.ofNat code)) := by
  decide

theorem start_two : ∀ lead < 0x20, 2 ≤ lead →
    start (.ofNat (lead + 0xC0)) = .inr ⟨lead, 1, 0x80, 0xBF⟩ := by
  decide

theorem start_three : ∀ lead < 0x10, start (.ofNat (lead + 0xE0)) =
    .inr ⟨lead, 2, if lead = 0 then 0xA0 else 0x80, if lead = 13 then 0x9F else 0xBF⟩ := by
  decide

theorem start_four : ∀ lead < 5, start (.ofNat (lead + 0xF0)) =
    .inr ⟨lead, 3, if lead = 0 then 0x90 else 0x80, if lead = 4 then 0x8F else 0xBF⟩ := by
  decide

namespace Decoding

variable {found : List Piece} {code : Nat}

theorem feed_start {byte : UInt8} {owed : Owed} (starts : Text.start byte = .inr owed) :
    feed ⟨found, none⟩ byte = ⟨found, some owed⟩ := by
  simp only [feed, start, starts]

theorem feed_continuation {owed : Owed} {bits : Nat} (small : bits < 64)
    (inside : owed.low.toNat ≤ bits + 0x80 ∧ bits + 0x80 ≤ owed.high.toNat) :
    feed ⟨found, some owed⟩ (.ofNat (bits + 0x80)) =
      if owed.left = 1 then ⟨some (Char.ofNat (owed.code * 64 + bits)) :: found, none⟩
      else ⟨found, some ⟨owed.code * 64 + bits, owed.left - 1, 0x80, 0xBF⟩⟩ := by
  have value : (UInt8.ofNat (bits + 0x80)).toNat = bits + 0x80 := by
    rw [UInt8.toNat_ofNat', Nat.mod_eq_of_lt (by omega)]
  have accepted : owed.accepts (.ofNat (bits + 0x80)) = true := by
    simp only [Owed.accepts, Bool.and_eq_true, decide_eq_true_eq, UInt8.le_iff_toNat_le, value]
    exact inside
  simp only [feed, accepted, if_true, value, Nat.add_sub_cancel]

theorem feed_last {code bits : Nat} {low high : UInt8} (small : bits < 64)
    (inside : low.toNat ≤ bits + 0x80 ∧ bits + 0x80 ≤ high.toNat) :
    feed ⟨found, some ⟨code, 1, low, high⟩⟩ (.ofNat (bits + 0x80)) =
      ⟨some (Char.ofNat (code * 64 + bits)) :: found, none⟩ := by
  rw [feed_continuation small inside]
  simp only [if_true]

theorem feed_one (one : code ≤ 0x7F) :
    [UInt8.ofNat code].foldl feed ⟨found, none⟩ = ⟨some (Char.ofNat code) :: found, none⟩ := by
  simp only [List.foldl_cons, List.foldl_nil, feed, start, start_one code (by omega)]

theorem feed_two (more : 0x7F < code) (two : code ≤ 0x7FF) :
    [UInt8.ofNat (code / 64 % 0x20 + 0xC0), .ofNat (code % 0x40 + 0x80)].foldl feed ⟨found, none⟩ =
      ⟨some (Char.ofNat code) :: found, none⟩ := by
  have lead : code / 64 % 0x20 = code / 64 := by omega
  have whole : code / 64 * 64 + code % 64 = code := by omega
  simp only [List.foldl_cons, List.foldl_nil]
  rw [lead, feed_start (start_two _ (by omega) (by omega)),
    feed_last (by omega) (by simp; omega), whole]

theorem feed_three (valid : code < 0xD800 ∨ 0xDFFF < code) (more : 0x7FF < code)
    (three : code ≤ 0xFFFF) :
    [UInt8.ofNat (code / 4096 % 0x10 + 0xE0), .ofNat (code / 64 % 0x40 + 0x80),
      .ofNat (code % 0x40 + 0x80)].foldl feed ⟨found, none⟩ =
      ⟨some (Char.ofNat code) :: found, none⟩ := by
  have lead : code / 4096 % 0x10 = code / 4096 := by omega
  have whole : (code / 4096 * 64 + code / 64 % 64) * 64 + code % 64 = code := by omega
  simp only [List.foldl_cons, List.foldl_nil]
  rw [lead, feed_start (start_three _ (by omega)), feed_continuation (by omega) ?inside]
  case inside =>
    constructor
    · by_cases first : code / 4096 = 0 <;> simp [first]
      omega
    · by_cases last : code / 4096 = 13 <;> simp [last] <;> omega
  simp only [Nat.reduceEqDiff, if_false, Nat.add_one_sub_one]
  rw [feed_last (by omega) (by simp; omega), whole]

theorem feed_four (valid : code < 0x110000) (more : 0xFFFF < code) :
    [UInt8.ofNat (code / 262144 % 0x08 + 0xF0), .ofNat (code / 4096 % 0x40 + 0x80),
      .ofNat (code / 64 % 0x40 + 0x80), .ofNat (code % 0x40 + 0x80)].foldl feed ⟨found, none⟩ =
      ⟨some (Char.ofNat code) :: found, none⟩ := by
  have lead : code / 262144 % 0x08 = code / 262144 := by omega
  have whole : ((code / 262144 * 64 + code / 4096 % 64) * 64 + code / 64 % 64) * 64 + code % 64 =
      code := by
    omega
  simp only [List.foldl_cons, List.foldl_nil]
  rw [lead, feed_start (start_four _ (by omega)), feed_continuation (by omega) ?inside]
  case inside =>
    constructor
    · by_cases first : code / 262144 = 0 <;> simp [first]
      omega
    · by_cases last : code / 262144 = 4 <;> simp [last] <;> omega
  simp only [Nat.reduceEqDiff, if_false, Nat.add_one_sub_one]
  rw [feed_continuation (by omega) (by simp; omega)]
  simp only [Nat.reduceEqDiff, if_false, Nat.add_one_sub_one]
  rw [feed_last (by omega) (by simp; omega), whole]

theorem feed_char (c : Char) :
    (String.utf8EncodeChar c).foldl feed ⟨found, none⟩ = ⟨some c :: found, none⟩ := by
  have valid : c.val.toNat < 0xD800 ∨ 0xDFFF < c.val.toNat ∧ c.val.toNat < 0x110000 := c.valid
  have self : Char.ofNat c.val.toNat = c := Char.ofNat_toNat c
  fun_cases String.utf8EncodeChar c with
  | case1 code one => rw [feed_one one, self]
  | case2 code more two => rw [feed_two (by omega) two, self]
  | case3 code _ more three => rw [feed_three (by omega) (by omega) three, self]
  | case4 code _ _ more => rw [feed_four (by omega) (by omega), self]

theorem feed_chars (chars : List Char) (found : List Piece) :
    (chars.flatMap String.utf8EncodeChar).foldl feed ⟨found, none⟩ =
      ⟨(chars.map some).reverse ++ found, none⟩ := by
  induction chars generalizing found with
  | nil => rfl
  | cons c chars ih =>
      rw [List.flatMap_cons, List.foldl_append, feed_char, ih]
      simp

end Decoding

theorem pieces_encode (text : String) : pieces (encode text) = text.toList.map some := by
  rw [pieces, encode, Decoding.feed_chars]
  simp [Decoding.finish]

@[simp] theorem decode?_encode (text : String) : decode? (encode text) = some text := by
  simp [decode?, pieces_encode, Function.comp_def]

end KeywordHarvest.Text
