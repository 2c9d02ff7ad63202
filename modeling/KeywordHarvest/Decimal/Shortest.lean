import KeywordHarvest.Decimal.Binary64

/-! The shortest decimal that reads back as a given binary number, written without an exponent.
Among the decimals with the fewest digits the nearest is taken, and of two equally near the larger.
Candidates are the two neighbours of the number on the grid of one digit, then two, up to
seventeen. -/

namespace KeywordHarvest.Decimal

open Binary64

structure Scaled where
  digits : Nat
  exponent : Int
  deriving DecidableEq

def leadingPower (magnitude : Nat) : Int :=
  (Nat.toDigits 10 (magnitude * Nat.pow 10 325 / one)).length - 326

/-- A magnitude measured on a power of ten: four times it, how far down and up a decimal may lie
and still read back, and the length of a step, all in one unit. -/
structure Measured where
  value : Nat
  down : Nat
  up : Nat
  step : Nat
  closed : Bool

def measure (magnitude : Nat) (power : Int) : Measured :=
  let factor := Nat.pow 10 (-power).toNat
  let gap := spacing magnitude
  let lowest := magnitude = Nat.pow 2 52 * gap && 1 < gap
  { value := 4 * magnitude * factor
    down := (if lowest then gap else 2 * gap) * factor
    up := 2 * gap * factor
    step := 4 * one * Nat.pow 10 power.toNat
    closed := magnitude / gap % 2 = 0 }

def Measured.readsBack (m : Measured) (count : Nat) : Bool :=
  let place := count * m.step
  if m.closed then m.value ≤ place + m.down && place ≤ m.value + m.up
  else m.value < place + m.down && place < m.value + m.up

/-- The nearer of the neighbouring steps that read back. -/
def Measured.neighbour? (m : Measured) : Option Nat :=
  let below := m.value / m.step
  let above := below + 1
  match m.readsBack below, m.readsBack above with
  | true, true =>
      if 2 * (m.value % m.step) < m.step then some below else some above
  | true, false => some below
  | false, true => some above
  | false, false => none

def onGrid? (magnitude : Nat) (places : Nat) : Option Scaled :=
  let power := leadingPower magnitude - places
  ((measure magnitude power).neighbour?).map (⟨·, power⟩)

def shortest (magnitude : Nat) : Scaled :=
  ((List.range 17).findSome? (onGrid? magnitude)).getD ⟨0, 0⟩

/-- All digits in place; a fraction that is zero is left out with its point. -/
def Scaled.positional (number : Scaled) : List Char :=
  if number.exponent < 0 then
    let places := number.exponent.natAbs
    let digits := Nat.toDigits 10 number.digits
    let padded := List.replicate (places + 1 - digits.length) '0' ++ digits
    let whole := padded.take (padded.length - places)
    let fraction := (padded.drop (padded.length - places)).reverse.dropWhile (· = '0')
    if fraction = [] then whole else whole ++ '.' :: fraction.reverse
  else Nat.toDigits 10 (number.digits * Nat.pow 10 number.exponent.natAbs)

def signed (negative : Bool) (text : List Char) : List Char :=
  if negative then '-' :: text else text

def Binary64.text : Binary64 → String
  | .finite negative 0 => String.ofList (signed negative ['0'])
  | .finite negative magnitude => String.ofList (signed negative (shortest magnitude).positional)
  | .infinite negative => String.ofList (signed negative ['i', 'n', 'f'])
  | .nan => "NaN"

end KeywordHarvest.Decimal
