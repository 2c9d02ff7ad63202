/-! Binary floating point with 53 significant bits. A finite magnitude is counted in units of the
smallest positive one, 2^-1074, so that all arithmetic is exact on natural numbers. -/

namespace KeywordHarvest.Decimal

inductive Binary64
  | finite (negative : Bool) (magnitude : Nat)
  | infinite (negative : Bool)
  | nan
  deriving DecidableEq

namespace Binary64

/-- One, in units of the smallest positive magnitude. -/
def one : Nat := Nat.pow 2 1074

/-- The first magnitude beyond the finite ones. -/
def limit : Nat := Nat.pow 2 2098

/-- The distance between neighbours around a magnitude. -/
def spacing (magnitude : Nat) : Nat := Nat.pow 2 (magnitude.log2 - 52)

/-- A quotient to the nearest integer, half way to the even one. -/
def nearestEven (num den : Nat) : Nat :=
  let quotient := num / den
  let twice := 2 * (num % den)
  if twice < den then quotient
  else if den < twice then quotient + 1
  else quotient + quotient % 2

/-- A non-negative quotient in units, rounded to 53 significant bits. -/
def round (num den : Nat) : Nat :=
  let step := spacing (num / den)
  nearestEven num (den * step) * step

def ofMagnitude (negative : Bool) (magnitude : Nat) : Binary64 :=
  if magnitude < limit then .finite negative magnitude else .infinite negative

/-- The value nearest to digits times a power of ten. Exponents too large or too small for any
digits are decided without the power. -/
def ofDecimal (negative : Bool) (digits : Nat) (exponent : Int) : Binary64 :=
  let order : Int := (Nat.toDigits 10 digits).length + exponent
  if digits = 0 || order < -330 then .finite negative 0
  else if 320 < order then .infinite negative
  else if exponent < 0 then
    ofMagnitude negative (round (digits * one) (Nat.pow 10 exponent.natAbs))
  else ofMagnitude negative (round (digits * Nat.pow 10 exponent.natAbs * one) 1)

end Binary64

end KeywordHarvest.Decimal
