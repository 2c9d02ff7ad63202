import KeywordHarvest.Toml.Lexical

/-! Dates, times of day and both together, with an offset or without. Reading checks the calendar
and the clock; writing gives the normal form, with a capital T and fractions of a second cut after
nine digits and trailing zeros. -/

namespace KeywordHarvest.Toml

structure Date where
  year : Nat
  month : Nat
  day : Nat

structure Clock where
  hour : Nat
  minute : Nat
  second : Nat
  nanosecond : Nat

inductive Offset
  | utc
  | hours (west : Bool) (hour minute : Nat)

inductive Moment
  | dateOnly (date : Date)
  | clockOnly (clock : Clock)
  | both (date : Date) (clock : Clock) (offset : Option Offset)

def fixedDigits (value : Nat) : Nat → Reader Nat
  | 0, cs => some (value, cs)
  | count + 1, c :: rest =>
      if isDigit c then fixedDigits (value * 10 + (c.toNat - 48)) count rest else none
  | _ + 1, [] => none

def bounded (count low high : Nat) : Reader Nat := fun cs => do
  let (value, rest) ← fixedDigits 0 count cs
  if low ≤ value && value ≤ high then some (value, rest) else none

def expect (c : Char) : Reader Unit
  | d :: rest => if c = d then some ((), rest) else none
  | [] => none

def isLeapYear (year : Nat) : Bool := year % 4 = 0 && (year % 100 ≠ 0 || year % 400 = 0)

def daysIn (year month : Nat) : Nat :=
  if month = 2 then if isLeapYear year then 29 else 28
  else if month = 4 || month = 6 || month = 9 || month = 11 then 30
  else 31

def date? : Reader Date := fun cs => do
  let (year, cs) ← fixedDigits 0 4 cs
  let (_, cs) ← expect '-' cs
  let (month, cs) ← bounded 2 1 12 cs
  let (_, cs) ← expect '-' cs
  let (day, cs) ← bounded 2 1 (daysIn year month) cs
  return (⟨year, month, day⟩, cs)

/-- Nine digits of a fraction as nanoseconds. -/
def nanoseconds (digits : List Char) : Nat :=
  ((digits ++ List.replicate 9 '0').take 9).foldl (fun value c => value * 10 + (c.toNat - 48)) 0

def fraction (cs : List Char) : Nat × List Char :=
  match cs with
  | '.' :: c :: rest =>
      if isDigit c then
        (nanoseconds (c :: rest.takeWhile isDigit), rest.dropWhile isDigit)
      else (0, cs)
  | _ => (0, cs)

def clock? : Reader Clock := fun cs => do
  let (hour, cs) ← bounded 2 0 23 cs
  let (_, cs) ← expect ':' cs
  let (minute, cs) ← bounded 2 0 59 cs
  let (_, cs) ← expect ':' cs
  let (second, cs) ← bounded 2 0 60 cs
  let (nanosecond, cs) := fraction cs
  return (⟨hour, minute, second, nanosecond⟩, cs)

def hours? (west : Bool) : Reader Offset := fun cs => do
  let (hour, cs) ← bounded 2 0 23 cs
  let (_, cs) ← expect ':' cs
  let (minute, cs) ← bounded 2 0 59 cs
  return (.hours west hour minute, cs)

def offset? : Reader Offset
  | 'Z' :: rest => some (.utc, rest)
  | 'z' :: rest => some (.utc, rest)
  | '+' :: rest => hours? false rest
  | '-' :: rest => hours? true rest
  | _ => none

def isDelimiter (c : Char) : Bool := c = 'T' || c = 't' || c = ' '

def clockAfterDate? : Reader Clock
  | c :: rest => if isDelimiter c then clock? rest else none
  | [] => none

def moment? : Reader Moment := fun cs =>
  match date? cs with
  | none => (clock? cs).map fun (clock, rest) => (.clockOnly clock, rest)
  | some (date, afterDate) =>
      match clockAfterDate? afterDate with
      | none => some (.dateOnly date, afterDate)
      | some (clock, afterClock) =>
          match offset? afterClock with
          | none => some (.both date clock none, afterClock)
          | some (offset, rest) => some (.both date clock (some offset), rest)

def padded (width value : Nat) : List Char :=
  let digits := Nat.toDigits 10 value
  List.replicate (width - digits.length) '0' ++ digits

def Date.text (date : Date) : List Char :=
  padded 4 date.year ++ '-' :: padded 2 date.month ++ '-' :: padded 2 date.day

def Clock.text (clock : Clock) : List Char :=
  let fraction := ((padded 9 clock.nanosecond).reverse.dropWhile (· = '0')).reverse
  padded 2 clock.hour ++ ':' :: padded 2 clock.minute ++ ':' :: padded 2 clock.second ++
    if clock.nanosecond = 0 then [] else '.' :: fraction

/-- No distance from UTC counts as east of it. -/
def Offset.text : Offset → List Char
  | .utc => ['Z']
  | .hours west hour minute =>
      let behind := west && (hour ≠ 0 || minute ≠ 0)
      (if behind then '-' else '+') :: (padded 2 hour ++ ':' :: padded 2 minute)

def Moment.text : Moment → String
  | .dateOnly date => String.ofList date.text
  | .clockOnly clock => String.ofList clock.text
  | .both date clock offset =>
      String.ofList (date.text ++ 'T' :: clock.text ++ (offset.map Offset.text).getD [])

end KeywordHarvest.Toml
