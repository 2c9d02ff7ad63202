import KeywordHarvest.Proofs.Text.Decoded

/-! Where a byte string is cut into characters and ill-formed subparts. At each place a character is
taken if the bytes from there on start with its encoding; otherwise as many bytes are taken as the
encoding of some character starts with, and one byte at least. There is one such cut of a byte
string, and the decoder finds it, since it goes on with a character as long as some encoding
does. -/

namespace KeywordHarvest.Text

variable {byte : UInt8} {bytes begun part rest : Bytes} {owed : Owed}

def BeginsChar (part : Bytes) : Prop := ∃ c, part <+: String.utf8EncodeChar c

theorem BeginsChar.of_front {longer : Bytes} (front : part <+: longer)
    (begins : BeginsChar longer) : BeginsChar part := by
  obtain ⟨c, whole⟩ := begins
  exact ⟨c, front.trans whole⟩

/-- A maximal ill-formed subpart, with what follows it. -/
structure IllFormed (part rest : Bytes) : Prop where
  nonempty : part ≠ []
  noChar : ∀ c, ¬ String.utf8EncodeChar c <+: part ++ rest
  begins : part.length = 1 ∨ BeginsChar part
  longest : ∀ longer, longer <+: part ++ rest → BeginsChar longer → longer.length ≤ part.length

inductive Cut : Bytes → List Piece → Prop
  | nil : Cut [] []
  | char (c : Char) {rest : Bytes} {pieces : List Piece} (later : Cut rest pieces) :
      Cut (String.utf8EncodeChar c ++ rest) (some c :: pieces)
  | subpart {part rest : Bytes} {pieces : List Piece} (maximal : IllFormed part rest)
      (later : Cut rest pieces) : Cut (part ++ rest) (none :: pieces)

namespace Decoding

theorem suffix_start (found : List Piece) (byte : UInt8) :
    found <:+ (Decoding.start found byte).found := by
  unfold Decoding.start
  cases Text.start byte with
  | inl piece => exact List.suffix_cons piece found
  | inr owed => exact List.suffix_refl found

theorem suffix_feed (decoding : Decoding) (byte : UInt8) :
    decoding.found <:+ (decoding.feed byte).found := by
  obtain ⟨found, expected⟩ := decoding
  cases expected with
  | none => exact suffix_start found byte
  | some owed =>
      rw [feed]
      split
      case isTrue =>
        dsimp only
        split
        case isTrue => exact List.suffix_cons _ found
        case isFalse => exact List.suffix_refl found
      case isFalse => exact (List.suffix_cons none found).trans (suffix_start _ byte)

theorem suffix_foldl (decoding : Decoding) (bytes : Bytes) :
    decoding.found <:+ (bytes.foldl feed decoding).found := by
  induction bytes generalizing decoding with
  | nil => exact List.suffix_refl _
  | cons byte bytes ih => exact (suffix_feed decoding byte).trans (ih _)

end Decoding

open Decoding (feed)

theorem found_of_front {c : Char} (front : part <+: String.utf8EncodeChar c) :
    (part.foldl feed ⟨[], none⟩).found <:+ [some c] := by
  obtain ⟨tail, whole⟩ := front
  have grown := Decoding.suffix_foldl (part.foldl feed ⟨[], none⟩) tail
  rw [← List.foldl_append, whole, Decoding.feed_char] at grown
  exact grown

theorem eq_of_encodeChar_front {c d : Char}
    (front : String.utf8EncodeChar c <+: String.utf8EncodeChar d) : c = d := by
  have found := found_of_front front
  rw [Decoding.feed_char] at found
  have same : [some c] = [some d] := found.eq_of_length rfl
  simpa using same

theorem none_not_mem_of_beginsChar (begins : BeginsChar part) :
    none ∉ (part.foldl feed ⟨[], none⟩).found := by
  obtain ⟨c, front⟩ := begins
  intro illFormed
  have inside := (found_of_front front).subset illFormed
  simp at inside

namespace Partway

theorem foldl_feed (partway : Partway begun owed) (found : List Piece) :
    begun.foldl feed ⟨found, none⟩ = ⟨found, some owed⟩ := by
  induction partway with
  | start starts => exact Decoding.feed_start starts
  | more _ accepted unfinished ih =>
      rw [List.foldl_append, ih]
      simp [feed, accepted, unfinished]

theorem ne_nil (partway : Partway begun owed) : begun ≠ [] := by
  cases partway <;> simp

theorem owes (partway : Partway begun owed) : 1 ≤ owed.left ∧ owed.accepts owed.low = true := by
  induction partway with
  | @start byte _ starts =>
      have starting := starts_start byte
      rw [starts] at starting
      cases starting with
      | two more few => exact ⟨by simp, by simp [Owed.accepts]⟩
      | three few =>
          refine ⟨by simp, ?_⟩
          simp only [Owed.accepts]
          split <;> split <;> simp_all
      | four few =>
          refine ⟨by simp, ?_⟩
          simp only [Owed.accepts]
          split <;> split <;> simp_all
  | more _ _ unfinished ih =>
      obtain ⟨left, _⟩ := ih
      exact ⟨by simp only; omega, by simp [Owed.accepts]⟩

theorem beginsChar (partway : Partway begun owed) : BeginsChar begun := by
  obtain ⟨owes, accepted⟩ := partway.owes
  induction left : owed.left generalizing begun owed with
  | zero => omega
  | succ count ih =>
      by_cases last : owed.left = 1
      · have whole := partway.finish last accepted
        exact ⟨_, by rw [whole]; exact List.prefix_append begun _⟩
      · -- The least byte that is accepted takes the character further.
        have longer := partway.more accepted last
        obtain ⟨owes', accepted'⟩ := longer.owes
        exact (ih longer owes' accepted' (by simp only; omega)).of_front (List.prefix_append _ _)

theorem prefix_of_beginsChar (partway : Partway begun owed)
    (stuck : ∀ byte ∈ rest.head?, owed.accepts byte = false) {longer : Bytes}
    (front : longer <+: begun ++ rest) (begins : BeginsChar longer) : longer <+: begun := by
  rcases List.prefix_or_prefix_of_prefix front (List.prefix_append begun rest) with
    within | ⟨tail, rfl⟩
  · exact within
  · cases tail with
    | nil => simp
    | cons byte tail =>
        obtain ⟨after, rfl⟩ := (List.prefix_append_right_inj begun).mp front
        have refused := stuck byte (by simp)
        have longer : begun ++ [byte] <+: begun ++ byte :: tail := by simp
        refine absurd ?_ (none_not_mem_of_beginsChar (begins.of_front longer))
        rw [List.foldl_append, partway.foldl_feed]
        simp only [List.foldl_cons, List.foldl_nil, feed, refused]
        exact (Decoding.suffix_start [none] byte).subset List.mem_cons_self

theorem illFormed (partway : Partway begun owed)
    (stuck : ∀ byte ∈ rest.head?, owed.accepts byte = false) : IllFormed begun rest where
  nonempty := partway.ne_nil
  noChar c front := by
    obtain ⟨tail, whole⟩ := partway.prefix_of_beginsChar stuck front ⟨c, List.prefix_refl _⟩
    have found := Decoding.suffix_foldl ((String.utf8EncodeChar c).foldl feed ⟨[], none⟩) tail
    rw [← List.foldl_append, whole, partway.foldl_feed, Decoding.feed_char] at found
    simp at found
  begins := .inr partway.beginsChar
  longest _ front begins := (partway.prefix_of_beginsChar stuck front begins).length_le

end Partway

theorem illFormed_of_start (starts : start byte = .inl none) (rest : Bytes) :
    IllFormed [byte] rest := by
  have alone : ¬ BeginsChar [byte] := by
    intro begins
    apply none_not_mem_of_beginsChar begins
    simp [feed, Decoding.start, starts]
  have nothing {longer : Bytes} (front : longer <+: byte :: rest) (begins : BeginsChar longer) :
      longer = [] := by
    cases longer with
    | nil => rfl
    | cons first longer =>
        obtain ⟨rfl, _⟩ := List.cons_prefix_cons.mp front
        exact absurd (begins.of_front (by simp)) alone
  exact ⟨by simp,
    fun c front => String.utf8EncodeChar_ne_nil (nothing front ⟨c, List.prefix_refl _⟩), .inl rfl,
    fun longer front begins => by simp [nothing front begins]⟩

namespace Decoding

/-- What a decoder finds in the bytes that it is still to be fed, where it has the beginning of a
character behind it, or nothing. -/
def Cuts (decoding : Decoding) (begun bytes : Bytes) : Prop :=
  ∃ pieces, (bytes.foldl feed decoding).finish = decoding.found.reverse ++ pieces ∧
    Cut (begun ++ bytes) pieces

/-- How the bytes of the last piece stand before a decoder. -/
def Stands : Option Owed → Bytes → Prop
  | none, begun => begun = []
  | some owed, begun => Partway begun owed

variable {found : List Piece}

theorem cuts_start (later : ∀ found expected begun, Stands expected begun →
    Cuts ⟨found, expected⟩ begun bytes) (found : List Piece) (byte : UInt8) :
    Cuts ⟨found, none⟩ [] (byte :: bytes) := by
  have starting := starts_start byte
  unfold Cuts
  rw [List.foldl_cons, List.nil_append, feed, Decoding.start]
  cases known : Text.start byte with
  | inl piece =>
      obtain ⟨pieces, fed, cut⟩ := later (piece :: found) none [] rfl
      refine ⟨piece :: pieces, by simpa using fed, ?_⟩
      rw [known] at starting
      cases starting with
      | @one code one =>
          have whole := Cut.char (Char.ofNat code) cut
          rwa [encodeChar_one one] at whole
      | nothing => exact .subpart (illFormed_of_start known bytes) cut
  | inr owed => exact later found (some owed) [byte] (.start known)

theorem cuts_of_stands (bytes : Bytes) : ∀ found expected begun, Stands expected begun →
    Cuts ⟨found, expected⟩ begun bytes := by
  induction bytes with
  | nil =>
      intro found expected begun stands
      cases expected with
      | none =>
          obtain rfl : begun = [] := stands
          exact ⟨[], by simp [finish], .nil⟩
      | some owed =>
          have partway : Partway begun owed := stands
          have maximal : IllFormed begun [] := partway.illFormed (by simp)
          exact ⟨[none], by simp [finish], .subpart maximal .nil⟩
  | cons byte bytes ih =>
      intro found expected begun stands
      cases expected with
      | none =>
          obtain rfl : begun = [] := stands
          exact cuts_start ih found byte
      | some owed =>
          have partway : Partway begun owed := stands
          by_cases accepted : owed.accepts byte = true
          · by_cases last : owed.left = 1
            · have whole := partway.finish last accepted
              obtain ⟨pieces, fed, cut⟩ := ih (some (Char.ofNat _) :: found) none [] rfl
              refine ⟨some (Char.ofNat (owed.code * 64 + (byte.toNat - 0x80))) :: pieces, ?_, ?_⟩
              · simpa [feed, accepted, last] using fed
              · have taken := Cut.char (Char.ofNat (owed.code * 64 + (byte.toNat - 0x80))) cut
                simpa [whole] using taken
            · have longer : Stands (some _) (begun ++ [byte]) := partway.more accepted last
              obtain ⟨pieces, fed, cut⟩ := ih found _ _ longer
              refine ⟨pieces, ?_, by simpa using cut⟩
              simpa [feed, accepted, last] using fed
          · have maximal : IllFormed begun (byte :: bytes) :=
              partway.illFormed (by simpa using accepted)
            obtain ⟨pieces, fed, cut⟩ := cuts_start ih (none :: found) byte
            refine ⟨none :: pieces, ?_, .subpart maximal cut⟩
            simpa [feed, accepted] using fed

end Decoding

theorem cut_pieces (bytes : Bytes) : Cut bytes (pieces bytes) := by
  obtain ⟨found, fed, cut⟩ := Decoding.cuts_of_stands bytes [] none [] rfl
  have same : pieces bytes = found := fed
  rwa [same]

theorem IllFormed.length_le {part' rest' : Bytes} (maximal : IllFormed part rest)
    (maximal' : IllFormed part' rest') (same : part ++ rest = part' ++ rest') :
    part.length ≤ part'.length := by
  rcases maximal.begins with single | begins
  · have some := List.length_pos_iff.mpr maximal'.nonempty
    omega
  · exact maximal'.longest part (same ▸ List.prefix_append part rest) begins

namespace Cut

variable {found others : List Piece}

theorem of_nil (cut : Cut [] found) : found = [] := by
  generalize empty : ([] : Bytes) = bytes at cut
  cases cut with
  | nil => rfl
  | char c _ =>
      exact absurd (List.append_eq_nil_iff.mp empty.symm).1 String.utf8EncodeChar_ne_nil
  | subpart maximal _ => exact absurd (List.append_eq_nil_iff.mp empty.symm).1 maximal.nonempty

theorem of_char {c : Char} (cut : Cut (String.utf8EncodeChar c ++ rest) found) :
    ∃ later, found = some c :: later ∧ Cut rest later := by
  generalize same : String.utf8EncodeChar c ++ rest = bytes at cut
  cases cut with
  | nil => exact absurd (List.append_eq_nil_iff.mp same).1 String.utf8EncodeChar_ne_nil
  | char d later =>
      have front : String.utf8EncodeChar c <+: String.utf8EncodeChar d ++ _ :=
        same ▸ List.prefix_append _ _
      have alike : c = d := by
        rcases List.prefix_or_prefix_of_prefix front (List.prefix_append _ _) with shorter | longer
        · exact eq_of_encodeChar_front shorter
        · exact (eq_of_encodeChar_front longer).symm
      subst alike
      obtain rfl := List.append_cancel_left same
      exact ⟨_, rfl, later⟩
  | subpart maximal _ => exact absurd (same ▸ List.prefix_append _ _) (maximal.noChar c)

theorem of_subpart (maximal : IllFormed part rest) (cut : Cut (part ++ rest) found) :
    ∃ later, found = none :: later ∧ Cut rest later := by
  generalize same : part ++ rest = bytes at cut
  cases cut with
  | nil => exact absurd (List.append_eq_nil_iff.mp same).1 maximal.nonempty
  | char c _ => exact absurd (same ▸ List.prefix_append _ _) (maximal.noChar c)
  | subpart maximal' later =>
      have long := Nat.le_antisymm (maximal.length_le maximal' same)
        (maximal'.length_le maximal same.symm)
      obtain ⟨rfl, rfl⟩ := List.append_inj same long
      exact ⟨_, rfl, later⟩

theorem unique (cut : Cut bytes found) (again : Cut bytes others) : found = others := by
  induction cut generalizing others with
  | nil => exact again.of_nil.symm
  | char c _ ih =>
      obtain ⟨later, rfl, cut⟩ := again.of_char
      rw [ih cut]
  | subpart maximal _ ih =>
      obtain ⟨later, rfl, cut⟩ := again.of_subpart maximal
      rw [ih cut]

end Cut

theorem pieces_eq_iff {found : List Piece} : pieces bytes = found ↔ Cut bytes found := by
  constructor
  · rintro rfl
    exact cut_pieces bytes
  · exact (cut_pieces bytes).unique

end KeywordHarvest.Text
