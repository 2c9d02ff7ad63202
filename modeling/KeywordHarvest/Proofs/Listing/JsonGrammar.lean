import KeywordHarvest.Listing.Json

/-! The grammar of JSON. A text is read from its start: each relation gives what is read and the
text after it. Blanks may stand around every value and mark, and a string holds no control character
and no quote as it is. -/

namespace KeywordHarvest.Listing.Json

/-- Numbers are kept as they are written, and the members of an object in order. -/
inductive Value
  | null
  | boolean (is : Bool)
  | number (written : List Char)
  | string (text : List Char)
  | array (elements : List Value)
  | object (members : List (List Char × Value))

def isBlank (c : Char) : Bool := c = ' ' || c = '\t' || c = '\n' || c = '\r'

/-- Nothing that may follow a gap is blank, so a gap is all the blanks there are. -/
def afterGap (text : List Char) : List Char := text.dropWhile isBlank

theorem afterGap_blank {c : Char} (blank : isBlank c = true) (text : List Char) :
    afterGap (c :: text) = afterGap text :=
  List.dropWhile_cons_of_pos blank

theorem afterGap_mark {c : Char} (mark : isBlank c = false) (text : List Char) :
    afterGap (c :: text) = c :: text :=
  List.dropWhile_cons_of_neg (by simp [mark])

/-- The letters that stand for a character after a backslash. -/
def letterEscapes : List (Char × Char) :=
  [('"', '"'), ('\\', '\\'), ('/', '/'), ('b', '\x08'), ('f', '\x0c'), ('n', '\n'), ('r', '\r'),
    ('t', '\t')]

def hexValue? (c : Char) : Option Nat := "0123456789abcdef".toList.idxOf? c.toLower

/-- The number that four hexadecimal digits write. -/
def codeUnit? (a b c d : Char) : Option Nat := do
  return (((← hexValue? a) * 16 + (← hexValue? b)) * 16 + (← hexValue? c)) * 16 + (← hexValue? d)

/-- A string after its opening quote. A character beyond the first plane can be escaped as two
surrogates; one surrogate alone is no character. -/
inductive Characters : List Char → List Char → List Char → Prop
  | closed {rest : List Char} : Characters ('"' :: rest) [] rest
  | plain {char : Char} {text value rest : List Char} (printable : 0x20 ≤ char.toNat)
      (inside : char ≠ '"') (unescaped : char ≠ '\\') (more : Characters text value rest) :
      Characters (char :: text) (char :: value) rest
  | letter {letter char : Char} {text value rest : List Char}
      (named : (letter, char) ∈ letterEscapes) (more : Characters text value rest) :
      Characters ('\\' :: letter :: text) (char :: value) rest
  | codePoint {a b c d char : Char} {text value rest : List Char}
      (written : codeUnit? a b c d = some char.toNat) (more : Characters text value rest) :
      Characters ('\\' :: 'u' :: a :: b :: c :: d :: text) (char :: value) rest
  | surrogates {a b c d e f g h char : Char} {high low : Nat} {text value rest : List Char}
      (first : codeUnit? a b c d = some high) (second : codeUnit? e f g h = some low)
      (isHigh : 0xD800 ≤ high ∧ high < 0xDC00) (isLow : 0xDC00 ≤ low ∧ low < 0xE000)
      (joined : char.toNat = 0x10000 + (high - 0xD800) * 0x400 + (low - 0xDC00))
      (more : Characters text value rest) :
      Characters ('\\' :: 'u' :: a :: b :: c :: d :: '\\' :: 'u' :: e :: f :: g :: h :: text)
        (char :: value) rest

def Digits (text : List Char) : Prop := text ≠ [] ∧ ∀ c ∈ text, c.isDigit

/-- No digits stand after a zero in front. -/
def Whole (text : List Char) : Prop := Digits text ∧ (text.head? = some '0' → text = ['0'])

def Fraction (text : List Char) : Prop := text = [] ∨ ∃ digits, text = '.' :: digits ∧ Digits digits

def Exponent (text : List Char) : Prop :=
  text = [] ∨ ∃ mark sign digits, text = mark :: (sign ++ digits) ∧ mark ∈ ['e', 'E'] ∧
    sign ∈ [[], ['+'], ['-']] ∧ Digits digits

def Number (text : List Char) : Prop :=
  ∃ sign whole fraction exponent, text = sign ++ whole ++ fraction ++ exponent ∧
    sign ∈ [[], ['-']] ∧ Whole whole ∧ Fraction fraction ∧ Exponent exponent

mutual

inductive Reads : List Char → Value → List Char → Prop
  | null {rest : List Char} : Reads ('n' :: 'u' :: 'l' :: 'l' :: rest) .null rest
  | false {rest : List Char} :
      Reads ('f' :: 'a' :: 'l' :: 's' :: 'e' :: rest) (.boolean .false) rest
  | true {rest : List Char} : Reads ('t' :: 'r' :: 'u' :: 'e' :: rest) (.boolean .true) rest
  | number {text written rest : List Char} (number : Number written)
      (shape : text = written ++ rest) : Reads text (.number written) rest
  | string {text value rest : List Char} (characters : Characters text value rest) :
      Reads ('"' :: text) (.string value) rest
  | emptyArray {text rest : List Char} (closed : afterGap text = ']' :: rest) :
      Reads ('[' :: text) (.array []) rest
  | array {text rest : List Char} {elements : List Value} (read : Elements text elements rest) :
      Reads ('[' :: text) (.array elements) rest
  | emptyObject {text rest : List Char} (closed : afterGap text = '}' :: rest) :
      Reads ('{' :: text) (.object []) rest
  | object {text rest : List Char} {members : List (List Char × Value)}
      (read : Members text members rest) : Reads ('{' :: text) (.object members) rest

inductive Elements : List Char → List Value → List Char → Prop
  | last {text after rest : List Char} {value : Value} (read : Reads (afterGap text) value after)
      (closed : afterGap after = ']' :: rest) : Elements text [value] rest
  | more {text after next rest : List Char} {value : Value} {others : List Value}
      (read : Reads (afterGap text) value after) (comma : afterGap after = ',' :: next)
      (later : Elements next others rest) : Elements text (value :: others) rest

inductive Members : List Char → List (List Char × Value) → List Char → Prop
  | last {text quoted name between next after rest : List Char} {value : Value}
      (quote : afterGap text = '"' :: quoted) (named : Characters quoted name between)
      (colon : afterGap between = ':' :: next) (read : Reads (afterGap next) value after)
      (closed : afterGap after = '}' :: rest) : Members text [(name, value)] rest
  | more {text quoted name between next after following rest : List Char} {value : Value}
      {others : List (List Char × Value)} (quote : afterGap text = '"' :: quoted)
      (named : Characters quoted name between) (colon : afterGap between = ':' :: next)
      (read : Reads (afterGap next) value after) (comma : afterGap after = ',' :: following)
      (later : Members following others rest) : Members text ((name, value) :: others) rest

end

def IsText (text : List Char) (value : Value) : Prop :=
  ∃ rest, Reads (afterGap text) value rest ∧ afterGap rest = []

end KeywordHarvest.Listing.Json
