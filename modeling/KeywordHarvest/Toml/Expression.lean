import KeywordHarvest.Toml.Quotation
import KeywordHarvest.Toml.Numeral
import KeywordHarvest.Toml.Value

/-! Keys and values as TOML text. Arrays and inline tables nest fewer than eighty deep, and a dotted
key has fewer than eighty parts. -/

namespace KeywordHarvest.Toml

def isBareChar (c : Char) : Bool :=
  isDigit c || ('a' ≤ c && c ≤ 'z') || ('A' ≤ c && c ≤ 'Z') || c = '_' || c = '-'

def keyPart? : Reader String
  | '"' :: rest => (basic [] none rest).map fun (text, rest) => (String.ofList text, rest)
  | '\'' :: rest => (literal [] rest).map fun (text, rest) => (String.ofList text, rest)
  | c :: rest =>
      if isBareChar c then
        some (String.ofList (c :: rest.takeWhile isBareChar), rest.dropWhile isBareChar)
      else none
  | [] => none

/-- A dotted key: the path before its last part, and that part. -/
structure Key where
  path : List String
  last : String

/-- A dotted key after the parts found so far, last first, with so many parts more at most, and what
follows the blanks after it. -/
def keyAfter? : Nat → List String → Reader Key
  | 0, _, _ => none
  | parts + 1, found, cs =>
      match keyPart? (afterBlanks cs) with
      | none => none
      | some (part, rest) =>
          match afterBlanks rest with
          | '.' :: more => keyAfter? parts (part :: found) more
          | other => some (⟨found.reverse, part⟩, other)

def keyLimit : Nat := 79

def key? : Reader Key := keyAfter? keyLimit []

def keyValue? (value? : Reader Value) : Reader (Key × Value) := fun cs => do
  let (key, rest) ← key? cs
  let (_, rest) ← expect '=' rest
  let (value, rest) ← value? (afterBlanks rest)
  return ((key, value), rest)

/-- The values of an array up to its closing bracket, so many more at most; a comma may follow the
last one. -/
def items? (value? : Reader Value) : Nat → List Value → Reader (List Value)
  | 0, _, _ => none
  | limit + 1, found, cs =>
      match afterLines false cs with
      | ']' :: rest => some (found.reverse, rest)
      | start =>
          match value? start with
          | none => none
          | some (item, after) =>
              match afterLines false after with
              | ']' :: rest => some ((item :: found).reverse, rest)
              | ',' :: rest => items? value? limit (item :: found) rest
              | _ => none

def entries? (value? : Reader Value) : Nat → Fields → Reader Fields
  | 0, _, _ => none
  | limit + 1, fields, cs =>
      match keyValue? value? cs with
      | none => none
      | some ((key, value), after) =>
          match fields.add key.path key.last value with
          | none => none
          | some fields =>
              match afterBlanks after with
              | '\x7d' :: rest => some (fields, rest)
              | ',' :: rest => entries? value? limit fields rest
              | _ => none

def inlineTable? (value? : Reader Value) (limit : Nat) : Reader Fields := fun cs =>
  match afterBlanks cs with
  | '\x7d' :: rest => some ([], rest)
  | _ => entries? value? limit [] cs

def number? : Reader Value := fun cs =>
  match moment? cs with
  | some (moment, rest) => some (.moment moment, rest)
  | none =>
      match float? cs with
      | some (value, rest) => some (.float value, rest)
      | none => (integer? cs).map fun (value, rest) => (.integer value, rest)

def textValue? : Reader Value := fun cs =>
  (quotation? cs).map fun (text, rest) => (.string (String.ofList text), rest)

def simple? : Reader Value
  | 't' :: 'r' :: 'u' :: 'e' :: rest => some (.boolean true, rest)
  | 'f' :: 'a' :: 'l' :: 's' :: 'e' :: rest => some (.boolean false, rest)
  | '"' :: rest => textValue? ('"' :: rest)
  | '\'' :: rest => textValue? ('\'' :: rest)
  | cs => number? cs

/-- A value in which brackets nest no deeper than `depth` and hold no more than `limit` values
each. -/
def value? (limit : Nat) : (depth : Nat) → Reader Value
  | depth + 1, '[' :: rest =>
      (items? (value? limit depth) limit [] rest).map fun (items, rest) => (.array items, rest)
  | depth + 1, '\x7b' :: rest =>
      (inlineTable? (value? limit depth) limit rest).map fun (fields, rest) =>
        (.table .inline fields, rest)
  | _, cs => simple? cs

end KeywordHarvest.Toml
