import Mathlib.Algebra.Group.Nat.Defs
import KeywordHarvest.Toml.Quotation

/-! All the ways to write a text between double quotes. A character may stand for itself, unless it
is a control character, a quote or a backslash; it may have a letter; and every character can be
written by its code point. The reader takes each of these ways back to the same text. -/

namespace KeywordHarvest.Toml

variable {c : Char} {text written rest found : List Char}

/-- Tabs, and everything but control characters, quotes and backslashes. -/
def StandsAlone (c : Char) : Prop :=
  c.toNat = 0x09 ∨ 0x20 ≤ c.toNat ∧ c.toNat ≤ 0x21 ∨ 0x23 ≤ c.toNat ∧ c.toNat ≤ 0x5B ∨
    0x5D ≤ c.toNat ∧ c.toNat ≤ 0x7E ∨ 0x80 ≤ c.toNat

instance (c : Char) : Decidable (StandsAlone c) := inferInstanceAs (Decidable (_ ∨ _))

def escapeLetters : List (Char × Char) :=
  [('b', '\x08'), ('t', '\t'), ('n', '\n'), ('f', '\x0c'), ('r', '\r'), ('"', '"'), ('\\', '\\')]

/-- Hexadecimal digits of either case with their values. -/
def hexDigits : List (Char × Nat) :=
  "0123456789abcdef".toList.zipIdx ++ "0123456789ABCDEF".toList.zipIdx

def hexNumber? : List Char → Option Nat
  | [] => some 0
  | digit :: digits => do
      return (← hexDigits.lookup digit) * 16 ^ digits.length + (← hexNumber? digits)

inductive Spelled : Char → List Char → Prop
  | alone {c : Char} (plain : StandsAlone c) : Spelled c [c]
  | letter {letter c : Char} (named : (letter, c) ∈ escapeLetters) : Spelled c ['\\', letter]
  | short {c : Char} {digits : List Char} (four : digits.length = 4)
      (codePoint : hexNumber? digits = some c.toNat) : Spelled c ('\\' :: 'u' :: digits)
  | long {c : Char} {digits : List Char} (eight : digits.length = 8)
      (codePoint : hexNumber? digits = some c.toNat) : Spelled c ('\\' :: 'U' :: digits)

/-- How a text can be written between quotes, each character in its own way. -/
inductive Written : List Char → List Char → Prop
  | nil : Written [] []
  | cons {c : Char} {text spelled written : List Char} (first : Spelled c spelled)
      (more : Written text written) : Written (c :: text) (spelled ++ written)

theorem isTextChar_iff : isTextChar c = true ↔
    c.toNat = 0x09 ∨ 0x20 ≤ c.toNat ∧ c.toNat ≠ 0x7F := by
  have tab : c = '\t' ↔ c.toNat = 0x09 := Char.toNat_inj.symm
  have delete : c = '\x7f' ↔ c.toNat = 0x7F := Char.toNat_inj.symm
  have space : ' ' ≤ c ↔ 0x20 ≤ c.toNat := UInt32.le_iff_toNat_le
  simp [isTextChar, tab, delete, space]

theorem basic_alone (plain : StandsAlone c) :
    basic found none (c :: rest) = basic (c :: found) none rest := by
  unfold StandsAlone at plain
  have quote : c ≠ '"' := by
    rintro rfl
    revert plain
    decide
  have backslash : c ≠ '\\' := by
    rintro rfl
    revert plain
    decide
  have shown : isTextChar c = true := isTextChar_iff.mpr (by omega)
  simp only [basic, quote, backslash, shown, if_true, if_false]

theorem namedEscape?_letter : ∀ named ∈ escapeLetters,
    named.1 ≠ 'u' ∧ named.1 ≠ 'U' ∧ namedEscape? named.1 = some named.2 := by
  decide

theorem basic_letter {letter : Char} (named : (letter, c) ∈ escapeLetters) :
    basic found none ('\\' :: letter :: rest) = basic (c :: found) none rest := by
  obtain ⟨short, long, denoted⟩ := namedEscape?_letter _ named
  have fed : Escape.opened.feed? letter = some (.inr c) := by
    simp_all [Escape.feed?]
  simp [basic, fed]

theorem digitValue?_hexDigit : ∀ digit ∈ hexDigits, digitValue? digit.1 = some digit.2 := by
  decide

theorem hexNumber?_cons {digit : Char} {digits : List Char} {number : Nat}
    (writes : hexNumber? (digit :: digits) = some number) :
    ∃ value others, digitValue? digit = some value ∧ hexNumber? digits = some others ∧
      value * 16 ^ digits.length + others = number := by
  simp only [hexNumber?, Option.bind_eq_bind, Option.bind_eq_some_iff, Option.pure_def,
    Option.some.injEq] at writes
  obtain ⟨value, stands, others, more, whole⟩ := writes
  obtain ⟨before, after, entry, _⟩ := List.lookup_eq_some_iff.mp stands
  have member : (digit, value) ∈ hexDigits := by simp [entry]
  exact ⟨value, others, digitValue?_hexDigit _ member, more, whole⟩

theorem codePoint?_toNat (c : Char) : codePoint? c.toNat = some c := by
  have valid : c.toNat.isValidChar := c.valid
  rw [codePoint?, if_pos valid, Char.ofNat_toNat]

theorem feed?_digit {digit : Char} {value left number : Nat}
    (reads : digitValue? digit = some value) :
    (Escape.digits left number).feed? digit =
      if left = 1 then (codePoint? (number * 16 + value)).map .inr
      else some (.inl (.digits (left - 1) (number * 16 + value))) := by
  simp only [Escape.feed?, reads]
  rfl

theorem basic_digits {digits : List Char} {before number : Nat} (owed : digits ≠ [])
    (writes : hexNumber? digits = some number)
    (denotes : before * 16 ^ digits.length + number = c.toNat) :
    basic found (some (.digits digits.length before)) (digits ++ rest) =
      basic (c :: found) none rest := by
  -- What was read before counts for all the positions that are left.
  induction digits generalizing before number with
  | nil => exact absurd rfl owed
  | cons digit digits ih =>
      obtain ⟨value, others, reads, more, whole⟩ := hexNumber?_cons writes
      have shifted : (before * 16 + value) * 16 ^ digits.length + others = c.toNat := by
        rw [← denotes, ← whole, List.length_cons, Nat.pow_succ']
        grind
      cases digits with
      | nil =>
          cases more
          have last : before * 16 + value = c.toNat := by simpa using shifted
          simp only [List.length_cons, List.length_nil, List.cons_append, List.nil_append, basic,
            feed?_digit reads, last, codePoint?_toNat, if_true, Option.map_some]
      | cons next digits =>
          have notLast : (digit :: next :: digits).length ≠ 1 := by simp
          rw [List.cons_append, basic, feed?_digit reads, if_neg notLast]
          exact ih (List.cons_ne_nil next digits) more shifted

theorem basic_codePoint {digits : List Char} {count : Nat} (counted : digits.length = count + 1)
    (writes : hexNumber? digits = some c.toNat) :
    basic found (some (.digits (count + 1) 0)) (digits ++ rest) = basic (c :: found) none rest := by
  have owed : digits ≠ [] := List.ne_nil_of_length_eq_add_one counted
  rw [← counted]
  exact basic_digits owed writes (by simp)

theorem basic_spelled {spelled : List Char} (spells : Spelled c spelled) :
    basic found none (spelled ++ rest) = basic (c :: found) none rest := by
  cases spells with
  | alone plain => exact basic_alone plain
  | letter named => exact basic_letter named
  | short four codePoint =>
      rw [← basic_codePoint four codePoint]
      simp [basic, Escape.feed?]
  | long eight codePoint =>
      rw [← basic_codePoint eight codePoint]
      simp [basic, Escape.feed?]

theorem basic_written (writes : Written text written) :
    basic found none (written ++ '"' :: rest) = some (found.reverse ++ text, rest) := by
  induction writes generalizing found with
  | nil => simp [basic]
  | cons first more ih =>
      rw [List.append_assoc, basic_spelled first, ih]
      simp

theorem Spelled.head_ne_quote {spelled : List Char} (spells : Spelled c spelled) :
    ∃ first others, spelled = first :: others ∧ first ≠ '"' := by
  cases spells with
  | alone plain =>
      refine ⟨c, [], rfl, ?_⟩
      rintro rfl
      revert plain
      decide
  | letter named => exact ⟨'\\', _, rfl, by decide⟩
  | short four codePoint => exact ⟨'\\', _, rfl, by decide⟩
  | long eight codePoint => exact ⟨'\\', _, rfl, by decide⟩

theorem quotation?_basic (cs : List Char) (single : ∀ others, cs ≠ '"' :: '"' :: others) :
    quotation? ('"' :: cs) = basic [] none cs := by
  unfold quotation?
  split <;> simp_all

theorem quotation?_written (writes : Written text written) (apart : rest.head? ≠ some '"') :
    quotation? ('"' :: (written ++ '"' :: rest)) = some (text, rest) := by
  rw [quotation?_basic, basic_written writes]
  · rfl
  · intro others
    cases writes with
    | nil =>
        intro same
        cases same
        exact apart rfl
    | cons first more =>
        obtain ⟨start, spelled, rfl, notQuote⟩ := first.head_ne_quote
        simp [notQuote]

example : quotation? "\"a\\u00e9\\\"\" ".toList = some ("aé\"".toList, " ".toList) := by decide

end KeywordHarvest.Toml
