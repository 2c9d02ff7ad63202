import KeywordHarvest.Toml.Lexical
import KeywordHarvest.Decimal.Binary64

/-! Integers and floats of TOML text. An underscore may stand between two digits. Integers have 64
bits; a float too large for a finite value is refused when positive and infinite when negative. -/

namespace KeywordHarvest.Toml

open Decimal

def digitRun (accepts : Char → Bool) (found : List Char) : List Char → List Char × List Char
  | '_' :: c :: rest =>
      if accepts c then digitRun accepts (c :: found) rest else (found.reverse, '_' :: c :: rest)
  | c :: rest =>
      if accepts c then digitRun accepts (c :: found) rest else (found.reverse, c :: rest)
  | [] => (found.reverse, [])

/-- A run with at least one digit, which an underscore cannot start. -/
def digits? (accepts : Char → Bool) : Reader (List Char)
  | c :: rest => if accepts c then some (digitRun accepts [c] rest) else none
  | [] => none

def valueIn (base : Nat) (digits : List Char) : Nat :=
  digits.foldl (fun value c => value * base + (digitValue? c).getD 0) 0

def sign : List Char → Bool × List Char
  | '-' :: rest => (true, rest)
  | '+' :: rest => (false, rest)
  | cs => (false, cs)

/-- Decimal digits of an integer, where a zero stands alone. -/
def wholeDigits? : Reader (List Char)
  | '0' :: rest => some (['0'], rest)
  | cs => digits? isDigit cs

def exponent? : Reader Int
  | c :: rest =>
      if c = 'e' || c = 'E' then do
        let (negative, rest) := sign rest
        let (digits, rest) ← digits? isDigit rest
        let size : Int := valueIn 10 digits
        return (if negative then -size else size, rest)
      else none
  | [] => none

def fractionDigits? : Reader (List Char)
  | '.' :: rest => digits? isDigit rest
  | _ => none

def tail? : Reader (List Char × Int) := fun cs =>
  match fractionDigits? cs with
  | none => (exponent? cs).map fun (power, rest) => (([], power), rest)
  | some (fraction, afterFraction) =>
      match exponent? afterFraction with
      | none => some ((fraction, 0), afterFraction)
      | some (power, rest) => some ((fraction, power), rest)

def special? (negative : Bool) : Reader Binary64
  | 'i' :: 'n' :: 'f' :: rest => some (.infinite negative, rest)
  | 'n' :: 'a' :: 'n' :: rest => some (.nan, rest)
  | _ => none

def float? : Reader Binary64 := fun cs =>
  let (negative, unsigned) := sign cs
  match special? negative unsigned with
  | some found => some found
  | none => do
      let (whole, rest) ← wholeDigits? unsigned
      let ((fraction, power), rest) ← tail? rest
      let value := Binary64.ofDecimal negative (valueIn 10 (whole ++ fraction))
        (power - fraction.length)
      if value = .infinite false then none else some (value, rest)

/-- The first integer beyond the range. -/
def integerLimit : Nat := Nat.pow 2 63

def inRange (value : Int) : Bool := -(integerLimit : Int) ≤ value && value < integerLimit

def checked? (value : Int) (rest : List Char) : Option (Int × List Char) :=
  if inRange value then some (value, rest) else none

def based? (base : Nat) (cs : List Char) : Option (Int × List Char) := do
  let (digits, rest) ← digits? (fun c => (digitValue? c).any (· < base)) cs
  checked? (valueIn base digits) rest

def integer? : Reader Int
  | '0' :: 'x' :: rest => based? 16 rest
  | '0' :: 'o' :: rest => based? 8 rest
  | '0' :: 'b' :: rest => based? 2 rest
  | cs => do
      let (negative, unsigned) := sign cs
      let (digits, rest) ← wholeDigits? unsigned
      let size : Int := valueIn 10 digits
      checked? (if negative then -size else size) rest

end KeywordHarvest.Toml
