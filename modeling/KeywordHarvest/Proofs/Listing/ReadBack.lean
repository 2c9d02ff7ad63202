import KeywordHarvest.Proofs.Listing.JsonGrammar
import KeywordHarvest.Listing

/-! The grammar on a JSON listing. Whatever text comes after a part that was written, the grammar
reads that part as it was meant and in no other way, so a listing has one value: the list. -/

namespace KeywordHarvest.Listing

namespace Json

variable {c : Char} {text rest value keyword : List Char} {read : Value}

theorem letterEscapes_unique : ∀ escaped ∈ letterEscapes, ∀ other ∈ letterEscapes,
    escaped.1 = other.1 → escaped.2 = other.2 := by decide

theorem hexValue?_hexDigit : ∀ value < 16, hexValue? (hexDigit value) = some value := by decide

theorem hexDigit_ne : ∀ value < 16, hexDigit value ≠ '"' ∧ hexDigit value ≠ '\\' := by decide

theorem printable_hexDigit : ∀ value < 16, 0x20 ≤ (hexDigit value).toNat := by decide

theorem codeUnit?_hexDigit {value : Nat} (small : value < 0x20) :
    codeUnit? '0' '0' (hexDigit (value / 16)) (hexDigit (value % 16)) = some value := by
  have zero : hexValue? '0' = some 0 := by decide
  have high := hexValue?_hexDigit (value / 16) (by omega)
  have low := hexValue?_hexDigit (value % 16) (by omega)
  have whole : value / 16 * 16 + value % 16 = value := by omega
  simp [codeUnit?, zero, high, low, whole]

/-- How a character is written: by a letter, by its code point, or as it is. -/
inductive Written : Char → List Char → Prop
  | letter {letter c : Char} (named : (letter, c) ∈ letterEscapes) : Written c ['\\', letter]
  | codePoint {c : Char} (control : c.toNat < 0x20) :
      Written c ['\\', 'u', '0', '0', hexDigit (c.toNat / 16), hexDigit (c.toNat % 16)]
  | plain {c : Char} (printable : 0x20 ≤ c.toNat) (inside : c ≠ '"') (unescaped : c ≠ '\\') :
      Written c [c]

theorem written_escape (c : Char) : Written c (escape c) := by
  unfold escape
  split
  case h_8 quote backslash _ _ _ _ _ =>
    split
    case isTrue control => exact .codePoint control
    case isFalse printable => exact .plain (by omega) quote backslash
  all_goals exact .letter (by decide)

theorem Characters.letter_iff {letter c : Char} (named : (letter, c) ∈ letterEscapes) :
    Characters ('\\' :: letter :: text) value rest ↔
      ∃ others, value = c :: others ∧ Characters text others rest := by
  have noCode : letter ≠ 'u' := by
    rintro rfl
    simp [letterEscapes] at named
  constructor
  · intro characters
    cases characters with
    | plain _ _ unescaped => exact absurd rfl unescaped
    | letter named' more =>
        have same := letterEscapes_unique _ named _ named' rfl
        exact ⟨_, congrArg (· :: _) same.symm, more⟩
    | codePoint => exact absurd rfl noCode
    | surrogates => exact absurd rfl noCode
  · rintro ⟨others, rfl, more⟩
    exact .letter named more

theorem Characters.codePoint_iff (control : c.toNat < 0x20) :
    Characters ('\\' :: 'u' :: '0' :: '0' :: hexDigit (c.toNat / 16) :: hexDigit (c.toNat % 16) ::
      text) value rest ↔ ∃ others, value = c :: others ∧ Characters text others rest := by
  have unit := codeUnit?_hexDigit control
  constructor
  · intro characters
    cases characters with
    | plain _ _ unescaped => exact absurd rfl unescaped
    | letter named => simp [letterEscapes] at named
    | codePoint written more =>
        have same := Option.some.inj (written.symm.trans unit)
        exact ⟨_, by rw [Char.toNat_inj.mp same], more⟩
    | surrogates first _ isHigh =>
        have same := Option.some.inj (first.symm.trans unit)
        omega
  · rintro ⟨others, rfl, more⟩
    exact .codePoint unit more

theorem Characters.plain_iff (printable : 0x20 ≤ c.toNat) (inside : c ≠ '"')
    (unescaped : c ≠ '\\') :
    Characters (c :: text) value rest ↔
      ∃ others, value = c :: others ∧ Characters text others rest := by
  constructor
  · intro characters
    cases characters with
    | closed => exact absurd rfl inside
    | plain _ _ _ more => exact ⟨_, rfl, more⟩
    | letter | codePoint | surrogates => exact absurd rfl unescaped
  · rintro ⟨others, rfl, more⟩
    exact .plain printable inside unescaped more

theorem Written.characters_iff {written : List Char} (form : Written c written) :
    Characters (written ++ text) value rest ↔
      ∃ others, value = c :: others ∧ Characters text others rest := by
  cases form with
  | letter named => exact Characters.letter_iff named
  | codePoint control => exact Characters.codePoint_iff control
  | plain printable inside unescaped => exact Characters.plain_iff printable inside unescaped

theorem Characters.closed_iff : Characters ('"' :: text) value rest ↔ value = [] ∧ rest = text := by
  constructor
  · intro characters
    cases characters with
    | closed => exact ⟨rfl, rfl⟩
    | plain _ inside => exact absurd rfl inside
  · rintro ⟨rfl, rfl⟩
    exact .closed

theorem characters_escaped_iff :
    Characters (keyword.flatMap escape ++ '"' :: text) value rest ↔
      value = keyword ∧ rest = text := by
  induction keyword generalizing value with
  | nil => exact Characters.closed_iff
  | cons c keyword ih =>
      rw [List.flatMap_cons, List.append_assoc, (written_escape c).characters_iff]
      constructor
      · rintro ⟨others, rfl, more⟩
        obtain ⟨rfl, rfl⟩ := ih.mp more
        exact ⟨rfl, rfl⟩
      · rintro ⟨rfl, rfl⟩
        exact ⟨keyword, rfl, ih.mpr ⟨rfl, rfl⟩⟩

theorem Number.start {written : List Char} (number : Number written)
    (shape : c :: text = written ++ rest) :
    c = '-' ∨ c.isDigit := by
  obtain ⟨sign, whole, fraction, exponent, rfl, signs, ⟨⟨filled, digits⟩, _⟩, _⟩ := number
  cases signs with
  | head =>
      cases whole with
      | nil => exact absurd rfl filled
      | cons first whole =>
          obtain ⟨rfl, _⟩ := List.cons.inj shape
          exact .inr (digits _ List.mem_cons_self)
  | tail _ signs =>
      obtain rfl := List.mem_singleton.mp signs
      exact .inl (List.cons.inj shape).1

theorem reads_quote_iff :
    Reads (quote keyword ++ text) read rest ↔ read = .string keyword ∧ rest = text := by
  have shape : quote keyword ++ text = '"' :: (keyword.flatMap escape ++ '"' :: text) := by
    simp [quote]
  rw [shape]
  constructor
  · intro reads
    cases reads with
    | number number shape => simpa using number.start shape
    | string characters =>
        obtain ⟨rfl, rfl⟩ := characters_escaped_iff.mp characters
        exact ⟨rfl, rfl⟩
  · rintro ⟨rfl, rfl⟩
    exact .string (characters_escaped_iff.mpr ⟨rfl, rfl⟩)

theorem reads_bracket_iff :
    Reads ('[' :: text) read rest ↔
      (read = .array [] ∧ afterGap text = ']' :: rest) ∨
        ∃ elements, read = .array elements ∧ Elements text elements rest := by
  constructor
  · intro reads
    cases reads with
    | number number shape => simpa using number.start shape
    | emptyArray closed => exact .inl ⟨rfl, closed⟩
    | array elements => exact .inr ⟨_, rfl, elements⟩
  · rintro (⟨rfl, closed⟩ | ⟨elements, rfl, more⟩)
    · exact .emptyArray closed
    · exact .array more

theorem not_reads_closing : ¬ Reads (']' :: text) read rest := by
  intro reads
  cases reads with
  | number number shape => simpa using number.start shape

theorem afterGap_element (keyword text : List Char) :
    afterGap ('\n' :: (element keyword ++ text)) = quote keyword ++ text := by
  rw [afterGap_blank rfl, element, List.cons_append, afterGap_blank rfl, List.cons_append,
    afterGap_blank rfl, quote, List.cons_append, afterGap_mark rfl]

theorem elements_element_iff {elements : List Value} :
    Elements ('\n' :: (element keyword ++ text)) elements rest ↔
      (elements = [.string keyword] ∧ afterGap text = ']' :: rest) ∨
        ∃ next others, elements = .string keyword :: others ∧ afterGap text = ',' :: next ∧
          Elements next others rest := by
  constructor
  · intro read
    cases read with
    | last read closed =>
        rw [afterGap_element] at read
        obtain ⟨rfl, rfl⟩ := reads_quote_iff.mp read
        exact .inl ⟨rfl, closed⟩
    | more read comma later =>
        rw [afterGap_element] at read
        obtain ⟨rfl, rfl⟩ := reads_quote_iff.mp read
        exact .inr ⟨_, _, rfl, comma, later⟩
  · have first : Reads (afterGap ('\n' :: (element keyword ++ text))) (.string keyword) text := by
      rw [afterGap_element]
      exact reads_quote_iff.mpr ⟨rfl, rfl⟩
    rintro (⟨rfl, closed⟩ | ⟨next, others, rfl, comma, later⟩)
    · exact .last first closed
    · exact .more first comma later

def lines (keywords : List (List Char)) : List Char :=
  '\n' :: ([',', '\n'].intercalate (keywords.map element) ++ ['\n', ']'])

theorem lines_singleton (keyword text : List Char) :
    lines [keyword] ++ text = '\n' :: (element keyword ++ '\n' :: ']' :: text) := by
  simp [lines]

theorem lines_cons_cons (first second text : List Char) (others : List (List Char)) :
    lines (first :: second :: others) ++ text =
      '\n' :: (element first ++ ',' :: (lines (second :: others) ++ text)) := by
  simp [lines, List.intercalate_cons_cons]

theorem elements_lines_iff {first : List Char} {others : List (List Char)}
    {elements : List Value} :
    Elements (lines (first :: others) ++ text) elements rest ↔
      elements = (first :: others).map .string ∧ rest = text := by
  induction others generalizing first elements with
  | nil =>
      rw [lines_singleton, elements_element_iff, afterGap_blank rfl, afterGap_mark rfl]
      constructor
      · rintro (⟨rfl, closed⟩ | ⟨next, others, _, comma, _⟩)
        · exact ⟨rfl, (List.cons.inj closed).2.symm⟩
        · simp at comma
      · rintro ⟨rfl, rfl⟩
        exact .inl ⟨rfl, rfl⟩
  | cons second others ih =>
      rw [lines_cons_cons, elements_element_iff, afterGap_mark rfl]
      constructor
      · rintro (⟨_, closed⟩ | ⟨next, later, rfl, comma, read⟩)
        · simp at closed
        · obtain rfl := (List.cons.inj comma).2
          obtain ⟨rfl, rfl⟩ := ih.mp read
          exact ⟨rfl, rfl⟩
      · rintro ⟨rfl, rfl⟩
        exact .inr ⟨_, _, rfl, rfl, ih.mpr ⟨rfl, rfl⟩⟩

theorem not_elements_closing {elements : List Value} :
    ¬ Elements (']' :: text) elements rest := by
  have gap : afterGap (']' :: text) = ']' :: text := afterGap_mark rfl text
  intro read
  cases read with
  | last read => exact not_reads_closing (gap ▸ read)
  | more read => exact not_reads_closing (gap ▸ read)

theorem reads_array_iff {keywords : List (List Char)} :
    Reads (array keywords ++ text) read rest ↔
      read = .array (keywords.map .string) ∧ rest = text := by
  cases keywords with
  | nil =>
      change Reads ('[' :: ']' :: text) read rest ↔ _
      rw [reads_bracket_iff, afterGap_mark rfl]
      constructor
      · rintro (⟨rfl, closed⟩ | ⟨elements, _, more⟩)
        · exact ⟨rfl, (List.cons.inj closed).2.symm⟩
        · exact absurd more not_elements_closing
      · rintro ⟨rfl, rfl⟩
        exact .inl ⟨rfl, rfl⟩
  | cons first others =>
      have shape : array (first :: others) ++ text = '[' :: (lines (first :: others) ++ text) := rfl
      have unclosed : afterGap (lines (first :: others) ++ text) ≠ ']' :: rest := by
        cases others with
        | nil => simp [lines_singleton, afterGap_element, quote]
        | cons => simp [lines_cons_cons, afterGap_element, quote]
      rw [shape, reads_bracket_iff]
      constructor
      · rintro (⟨_, closed⟩ | ⟨elements, rfl, more⟩)
        · exact absurd closed unclosed
        · obtain ⟨rfl, rfl⟩ := elements_lines_iff.mp more
          exact ⟨rfl, rfl⟩
      · rintro ⟨rfl, rfl⟩
        exact .inr ⟨_, rfl, elements_lines_iff.mpr ⟨rfl, rfl⟩⟩

theorem isText_write_iff {keywords : List (List Char)} :
    IsText (write keywords) read ↔ read = .array (keywords.map .string) := by
  have front : afterGap (write keywords) = write keywords := by
    cases keywords <;> exact afterGap_mark rfl _
  have ending : afterGap ['\n'] = [] := by decide
  rw [IsText, front]
  constructor
  · rintro ⟨rest, reads, _⟩
    exact (reads_array_iff.mp reads).1
  · rintro rfl
    exact ⟨['\n'], reads_array_iff.mpr ⟨rfl, rfl⟩, ending⟩

/-- The characters between the quotes of a text, as they are written; the text may start inside a
string. A backslash takes the character after it along, so a quote there does not end the string. -/
def insideStrings : Bool → List Char → List Char
  | _, [] => []
  | false, c :: text => insideStrings (c == '"') text
  | true, '"' :: text => insideStrings false text
  | true, '\\' :: taken :: text => '\\' :: taken :: insideStrings true text
  | true, c :: text => c :: insideStrings true text

example : insideStrings false "[\"a\\\"b\", 1, \"c\"]".toList = "a\\\"bc".toList := by decide

theorem insideStrings_plain (inside : c ≠ '"') (unescaped : c ≠ '\\') :
    insideStrings true (c :: text) = c :: insideStrings true text := by
  simp [insideStrings, unescaped]

theorem Written.insideStrings {written : List Char} (form : Written c written) :
    insideStrings true (written ++ text) = written ++ insideStrings true text := by
  cases form with
  | letter named => rfl
  | codePoint control =>
      have high := hexDigit_ne (c.toNat / 16) (by omega)
      have low := hexDigit_ne (c.toNat % 16) (by omega)
      change '\\' :: 'u' :: '0' :: '0' :: Json.insideStrings true (_ :: _ :: text) = _
      rw [insideStrings_plain high.1 high.2, insideStrings_plain low.1 low.2]
      rfl
  | plain printable inside unescaped => exact insideStrings_plain inside unescaped

theorem Written.printable {written : List Char} (form : Written c written) :
    ∀ d ∈ written, 0x20 ≤ d.toNat := by
  have backslash : 0x20 ≤ '\\'.toNat := by decide
  cases form with
  | letter named =>
      have letters : ∀ escape ∈ letterEscapes, 0x20 ≤ escape.1.toNat := by decide
      simpa [backslash] using letters _ named
  | codePoint control =>
      have mark : 0x20 ≤ 'u'.toNat := by decide
      have zero : 0x20 ≤ '0'.toNat := by decide
      have high := printable_hexDigit (c.toNat / 16) (by omega)
      have low := printable_hexDigit (c.toNat % 16) (by omega)
      simpa [backslash, mark, zero] using ⟨high, low⟩
  | plain printable => simpa using printable

theorem insideStrings_element :
    insideStrings false (element keyword ++ text) =
      keyword.flatMap escape ++ insideStrings false text := by
  have escaped : insideStrings true (keyword.flatMap escape ++ '"' :: text) =
      keyword.flatMap escape ++ insideStrings false text := by
    induction keyword with
    | nil => rfl
    | cons c keyword ih =>
        rw [List.flatMap_cons, List.append_assoc, (written_escape c).insideStrings, ih,
          List.append_assoc]
  have shape : element keyword ++ text =
      ' ' :: ' ' :: '"' :: (keyword.flatMap escape ++ '"' :: text) := by simp [element, quote]
  rw [shape]
  exact escaped

theorem insideStrings_lines {first : List Char} {others : List (List Char)} :
    insideStrings false (lines (first :: others) ++ text) =
      (first :: others).flatten.flatMap escape ++ insideStrings false text := by
  induction others generalizing first with
  | nil =>
      rw [lines_singleton, List.flatten_singleton]
      exact insideStrings_element
  | cons second others ih =>
      rw [lines_cons_cons, List.flatten_cons, List.flatMap_append, List.append_assoc, ← ih]
      exact insideStrings_element

theorem insideStrings_write (keywords : List (List Char)) :
    insideStrings false (write keywords) = keywords.flatten.flatMap escape := by
  cases keywords with
  | nil => rfl
  | cons first others =>
      have inner : insideStrings false (lines (first :: others) ++ ['\n']) = _ :=
        insideStrings_lines
      exact inner.trans (List.append_nil _)

end Json

open Json (Value Reads IsText insideStrings)

def texts (keywords : List String) : Value := .array (keywords.map fun text => .string text.toList)

theorem texts_eq (keywords : List String) :
    texts keywords = .array ((keywords.map String.toList).map .string) := by
  rw [List.map_map]
  rfl

theorem texts_inj {keywords keywords' : List String} (same : texts keywords = texts keywords') :
    keywords = keywords' := by
  have injective : ∀ text text' : String,
      Value.string text.toList = Value.string text'.toList → text = text' :=
    fun _ _ same => String.toList_inj.mp (Value.string.inj same)
  exact (List.map_inj_right injective).mp (Value.array.inj same)

theorem json_reads_back (name : String) (keywords : List String) :
    (∃ array, ((⟨.json, name⟩ : Listing).write keywords).toList = array ++ ['\n'] ∧
      ∀ value rest, Reads array value rest ↔ value = texts keywords ∧ rest = []) ∧
    (∀ value, IsText ((⟨.json, name⟩ : Listing).write keywords).toList value ↔
      value = texts keywords) ∧
    (∀ c ∈ insideStrings false ((⟨.json, name⟩ : Listing).write keywords).toList,
      0x20 ≤ c.toNat) ∧
    ∀ (name' : String) (keywords' : List String),
      (⟨.json, name'⟩ : Listing).write keywords' = (⟨.json, name⟩ : Listing).write keywords →
        keywords' = keywords := by
  have shown : ∀ name keywords value,
      IsText ((⟨.json, name⟩ : Listing).write keywords).toList value ↔ value = texts keywords := by
    intro name keywords value
    rw [toList_write, texts_eq]
    exact Json.isText_write_iff
  refine ⟨⟨Json.array (keywords.map String.toList), by rw [toList_write]; rfl, ?_⟩,
    shown name keywords, ?_, ?_⟩
  · intro value rest
    rw [texts_eq, ← List.append_nil (Json.array _)]
    exact Json.reads_array_iff
  · intro c inside
    rw [toList_write] at inside
    obtain ⟨d, _, written⟩ := List.mem_flatMap.mp (Json.insideStrings_write _ ▸ inside)
    exact (Json.written_escape d).printable c written
  · intro name' keywords' same
    have value := (shown name' keywords' _).mpr rfl
    rw [same] at value
    exact texts_inj ((shown name keywords _).mp value)

/-- A text for each way in which a character is written, and the empty one. -/
def hardTexts : List String := ["", "\"\\/", "\x00\x08\t\n\x0c\r\x1f", "\x7f\u2028", "😀"]

theorem json_reads_back_hard :
    ((⟨.json, "KEYWORDS"⟩ : Listing).write hardTexts).toList.splitOn '\n' =
        ["[", "  \"\",", "  \"\\\"\\\\/\",", "  \"\\u0000\\b\\t\\n\\f\\r\\u001f\",",
          "  \"\x7f\u2028\",", "  \"😀\"", "]", ""].map String.toList ∧
      IsText ((⟨.json, "KEYWORDS"⟩ : Listing).write hardTexts).toList (texts hardTexts) ∧
      (⟨.json, "KEYWORDS"⟩ : Listing).write hardTexts ≠
        (⟨.json, "KEYWORDS"⟩ : Listing).write (hardTexts ++ [""]) := by
  obtain ⟨_, read, _, _⟩ := json_reads_back "KEYWORDS" hardTexts
  obtain ⟨_, _, _, separate⟩ := json_reads_back "KEYWORDS" (hardTexts ++ [""])
  refine ⟨by decide, (read _).mpr rfl, fun same => ?_⟩
  cases separate "KEYWORDS" hardTexts same

end KeywordHarvest.Listing
