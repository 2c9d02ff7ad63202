/-! Bytes and the text they encode. Decoding cuts a byte string into pieces, one for each character
and one for each maximal ill-formed subpart: a start byte with the continuations it has so far, or
a single byte that can start nothing. The byte string is text when every piece is a character;
shown leniently, every other piece becomes one replacement character. -/

namespace KeywordHarvest

abbrev Bytes := List UInt8

namespace Text

/-- A character, or `none` for an ill-formed subpart. -/
abbrev Piece := Option Char

/-- Inside a character: the code point so far, the continuations still owed, and the range the next
one lies in. -/
structure Owed where
  code : Nat
  left : Nat
  low : UInt8
  high : UInt8
  deriving DecidableEq

def Owed.accepts (owed : Owed) (byte : UInt8) : Bool := owed.low ≤ byte && byte ≤ owed.high

/-- A start byte is a character by itself, starts one, or starts nothing. The narrowed second bytes
keep out overlong forms, surrogates and code points beyond the last plane. -/
def start (byte : UInt8) : Piece ⊕ Owed :=
  if byte < 0x80 then .inl (some (Char.ofNat byte.toNat))
  else if byte < 0xC2 then .inl none
  else if byte < 0xE0 then .inr ⟨byte.toNat - 0xC0, 1, 0x80, 0xBF⟩
  else if byte = 0xE0 then .inr ⟨0, 2, 0xA0, 0xBF⟩
  else if byte = 0xED then .inr ⟨0xD, 2, 0x80, 0x9F⟩
  else if byte < 0xF0 then .inr ⟨byte.toNat - 0xE0, 2, 0x80, 0xBF⟩
  else if byte = 0xF0 then .inr ⟨0, 3, 0x90, 0xBF⟩
  else if byte < 0xF4 then .inr ⟨byte.toNat - 0xF0, 3, 0x80, 0xBF⟩
  else if byte = 0xF4 then .inr ⟨4, 3, 0x80, 0x8F⟩
  else .inl none

/-- The pieces found so far, newest first, and what the last one still owes. -/
structure Decoding where
  found : List Piece
  owed : Option Owed
  deriving DecidableEq

namespace Decoding

def start (found : List Piece) (byte : UInt8) : Decoding :=
  match Text.start byte with
  | .inl piece => ⟨piece :: found, none⟩
  | .inr owed => ⟨found, some owed⟩

def feed : Decoding → UInt8 → Decoding
  | ⟨found, none⟩, byte => start found byte
  | ⟨found, some owed⟩, byte =>
      if owed.accepts byte then
        let code := owed.code * 64 + (byte.toNat - 0x80)
        if owed.left = 1 then ⟨some (Char.ofNat code) :: found, none⟩
        else ⟨found, some ⟨code, owed.left - 1, 0x80, 0xBF⟩⟩
      else start (none :: found) byte

def finish : Decoding → List Piece
  | ⟨found, none⟩ => found.reverse
  | ⟨found, some _⟩ => (none :: found).reverse

end Decoding

def pieces (bytes : Bytes) : List Piece := (bytes.foldl Decoding.feed ⟨[], none⟩).finish

def decode? (bytes : Bytes) : Option String :=
  if (pieces bytes).all Option.isSome then some (String.ofList ((pieces bytes).filterMap id))
  else none

def lenient (bytes : Bytes) : String :=
  String.ofList ((pieces bytes).map (·.getD '\uFFFD'))

def encode (text : String) : Bytes := text.toList.flatMap String.utf8EncodeChar

theorem encode_append (first second : String) :
    encode (first ++ second) = encode first ++ encode second := by
  simp [encode]

theorem lenient_eq_of_decode? {bytes : Bytes} {text : String}
    (decoded : decode? bytes = some text) : lenient bytes = text := by
  unfold decode? at decoded
  split at decoded
  case isFalse => simp at decoded
  case isTrue whole =>
    obtain rfl := Option.some.inj decoded
    unfold lenient
    congr 1
    revert whole
    generalize pieces bytes = found
    intro whole
    induction found with
    | nil => rfl
    | cons piece rest ih =>
        simp only [List.all_cons, Bool.and_eq_true] at whole
        obtain ⟨c, rfl⟩ := Option.isSome_iff_exists.mp whole.1
        simp [ih whole.2]

example : pieces [0x61, 0xE2, 0x82, 0x61] = [some 'a', none, some 'a'] := by decide

example : pieces [0xC0, 0xAF, 0xED, 0xA0, 0x80] = [none, none, none, none, none] := by decide

example : pieces [0xF0, 0x9F, 0x98, 0x80] = [some '😀'] := by decide

end Text

end KeywordHarvest
