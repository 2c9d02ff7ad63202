import Mathlib.Data.List.Basic
import Mathlib.Data.Nat.Digits.Defs
import KeywordHarvest.Toml.Moment
import KeywordHarvest.Toml.Numeral

/-! Integers, dates and times of day in the form in which they are taken for text. The readers take
each of them back to the value that was written. -/

namespace KeywordHarvest.Toml

variable {c : Char} {digits rest : List Char}

theorem isDigit_eq : isDigit = Char.isDigit := by
  funext c
  simp [isDigit, Char.isDigit, Char.le_def]

theorem isDigit_of_mem_toDigits {value : Nat} (member : c ∈ Nat.toDigits 10 value) :
    isDigit c = true := by
  rw [isDigit_eq]
  exact Nat.isDigit_of_mem_toDigits (by decide) (by decide) member

theorem digitValue?_of_isDigit (digit : isDigit c = true) :
    digitValue? c = some (c.toNat - 48) := by
  unfold isDigit at digit
  rw [digitValue?, if_pos digit]

theorem valueIn_ten (all : ∀ c ∈ digits, isDigit c = true) :
    valueIn 10 digits = Nat.ofDigitChars 10 digits 0 := by
  rw [valueIn, Nat.ofDigitChars_eq_foldl]
  refine List.foldl_ext _ _ _ fun value c member => ?_
  rw [digitValue?_of_isDigit (all c member), Nat.mul_comm]
  rfl

theorem digitRun_append (all : ∀ c ∈ digits, isDigit c = true)
    (ends : ∀ c ∈ rest.head?, isDigit c = false ∧ c ≠ '_') (found : List Char) :
    digitRun isDigit found (digits ++ rest) = (found.reverse ++ digits, rest) := by
  induction digits generalizing found with
  | nil =>
      cases rest with
      | nil => simp [digitRun]
      | cons c rest =>
          obtain ⟨stop, apart⟩ := ends c rfl
          simp [digitRun, stop, apart]
  | cons c digits ih =>
      obtain ⟨digit, others⟩ := List.forall_mem_cons.mp all
      have apart : c ≠ '_' := by
        rintro rfl
        cases digit
      rw [List.cons_append, digitRun]
      · rw [if_pos digit, ih others]
        simp
      · exact fun _ _ same => absurd same apart

/-- No zero stands in front of other digits. -/
theorem toDigits_ne_zero_cons {value : Nat} (positive : 0 < value) (tail : List Char) :
    Nat.toDigits 10 value ≠ '0' :: tail := by
  induction value using Nat.strongRecOn generalizing tail with
  | _ value ih =>
    rw [Nat.toDigits_eq_if (by decide)]
    split
    case isTrue =>
      intro same
      exact positive.ne' (Nat.digitChar_eq_zero.mp (List.cons.inj same).1)
    case isFalse large =>
      intro same
      cases front : Nat.toDigits 10 (value / 10) with
      | nil => exact Nat.toDigits_ne_nil front
      | cons c others =>
          rw [front] at same
          obtain ⟨rfl, _⟩ := List.cons.inj same
          exact ih _ (by omega) (by omega) others front

theorem wholeDigits?_toDigits (ends : ∀ c ∈ rest.head?, isDigit c = false ∧ c ≠ '_') (value : Nat) :
    wholeDigits? (Nat.toDigits 10 value ++ rest) = some (Nat.toDigits 10 value, rest) := by
  rcases Nat.eq_zero_or_pos value with rfl | positive
  · rfl
  · have all : ∀ c ∈ Nat.toDigits 10 value, isDigit c = true := fun _ => isDigit_of_mem_toDigits
    cases whole : Nat.toDigits 10 value with
    | nil => exact absurd whole Nat.toDigits_ne_nil
    | cons c digits =>
        rw [whole] at all
        obtain ⟨digit, others⟩ := List.forall_mem_cons.mp all
        have apart : c ≠ '0' := by
          rintro rfl
          exact toDigits_ne_zero_cons positive digits whole
        rw [List.cons_append, wholeDigits?, digits?, if_pos digit, digitRun_append others ends]
        · rfl
        · exact fun _ same => absurd (List.cons.inj same).1 apart

theorem toDigits_ne_based {base : Char} (ends : ∀ c ∈ rest.head?, c ≠ base) (value : Nat)
    (tail : List Char) : Nat.toDigits 10 value ++ rest ≠ '0' :: base :: tail := by
  intro same
  rcases Nat.eq_zero_or_pos value with rfl | positive
  · obtain ⟨_, rfl⟩ := List.cons.inj same
    exact ends base rfl rfl
  · cases whole : Nat.toDigits 10 value with
    | nil => exact Nat.toDigits_ne_nil whole
    | cons c digits =>
        rw [whole] at same
        obtain ⟨rfl, _⟩ := List.cons.inj same
        exact toDigits_ne_zero_cons positive digits whole

theorem sign_toDigits (value : Nat) :
    sign (Nat.toDigits 10 value ++ rest) = (false, Nat.toDigits 10 value ++ rest) := by
  cases whole : Nat.toDigits 10 value with
  | nil => exact absurd whole Nat.toDigits_ne_nil
  | cons c digits =>
      have digit : isDigit c = true := isDigit_of_mem_toDigits (whole ▸ List.mem_cons_self)
      rw [List.cons_append, sign]
      all_goals
        intro _ same
        obtain ⟨rfl, _⟩ := List.cons.inj same
        cases digit

theorem integer?_of_whole {cs digits : List Char} {negative : Bool} {unsigned : List Char}
    (plain : ∀ base ∈ ['x', 'o', 'b'], ∀ tail, cs ≠ '0' :: base :: tail)
    (signed : sign cs = (negative, unsigned))
    (reads : wholeDigits? unsigned = some (digits, rest)) :
    integer? cs = checked? (if negative then -(valueIn 10 digits : Int) else valueIn 10 digits)
      rest := by
  rw [integer?, signed]
  · simp only [bind, reads, Option.bind]
  all_goals exact plain _ (by decide)

theorem integer?_toString {value : Int} (fits : inRange value = true)
    (ends : ∀ c ∈ rest.head?, isDigit c = false ∧ c ∉ ['_', 'x', 'o', 'b']) :
    integer? ((toString value).toList ++ rest) = some (value, rest) := by
  have apart {mark : Char} (listed : mark ∈ ['_', 'x', 'o', 'b']) : ∀ c ∈ rest.head?, c ≠ mark :=
    fun c member same => (ends c member).2 (same ▸ listed)
  have reads (size : Nat) := wholeDigits?_toDigits
    (fun c member => ⟨(ends c member).1, apart (by decide) c member⟩) size
  have sized (size : Nat) : valueIn 10 (Nat.toDigits 10 size) = size :=
    (valueIn_ten fun c => isDigit_of_mem_toDigits).trans Nat.ofDigitChars_ten_toDigits
  cases value with
  | ofNat size =>
      have text : (toString (Int.ofNat size)).toList = Nat.toDigits 10 size := String.toList_ofList
      rw [text, integer?_of_whole (fun base listed => toDigits_ne_based
        (apart (List.mem_cons_of_mem _ listed)) size) (sign_toDigits size) (reads size), sized]
      exact if_pos fits
  | negSucc size =>
      have text : (toString (Int.negSucc size)).toList = '-' :: Nat.toDigits 10 (size + 1) := by
        have split : toString (Int.negSucc size) =
            "-" ++ String.ofList (Nat.toDigits 10 (size + 1)) := rfl
        simp [split]
      have signed : sign ('-' :: Nat.toDigits 10 (size + 1) ++ rest) =
          (true, Nat.toDigits 10 (size + 1) ++ rest) := rfl
      have plain : ∀ base ∈ ['x', 'o', 'b'], ∀ tail,
          '-' :: Nat.toDigits 10 (size + 1) ++ rest ≠ '0' :: base :: tail := by
        intro base _ tail same
        cases (List.cons.inj same).1
      rw [text, integer?_of_whole plain signed (reads (size + 1)), sized]
      exact if_pos fits

example : integer? "-1_000,".toList = some (-1000, ",".toList) := by decide

theorem fixedDigits_append (all : ∀ c ∈ digits, isDigit c = true) (value : Nat) :
    fixedDigits value digits.length (digits ++ rest) =
      some (Nat.ofDigitChars 10 digits value, rest) := by
  induction digits generalizing value with
  | nil => rfl
  | cons c digits ih =>
      obtain ⟨digit, others⟩ := List.forall_mem_cons.mp all
      rw [List.length_cons, List.cons_append, fixedDigits, if_pos digit, ih others,
        Nat.ofDigitChars_cons, Nat.mul_comm value]
      rfl

theorem isDigit_of_mem_padded {width value : Nat} (member : c ∈ padded width value) :
    isDigit c = true := by
  rcases List.mem_append.mp member with zero | digit
  · rw [List.eq_of_mem_replicate zero]
    rfl
  · exact isDigit_of_mem_toDigits digit

theorem length_padded {width value : Nat} (wide : 0 < width) (small : value < 10 ^ width) :
    (padded width value).length = width := by
  have short := (Nat.length_toDigits_le_iff (by decide) wide).mpr small
  simp only [padded, List.length_append, List.length_replicate]
  omega

theorem ofDigitChars_padded (width value : Nat) :
    Nat.ofDigitChars 10 (padded width value) 0 = value := by
  rw [padded, Nat.ofDigitChars_append, Nat.ofDigitChars_replicate_zero, Nat.mul_zero,
    Nat.ofDigitChars_ten_toDigits]

theorem fixedDigits_padded {width value : Nat} (wide : 0 < width) (small : value < 10 ^ width)
    (rest : List Char) : fixedDigits 0 width (padded width value ++ rest) = some (value, rest) := by
  have all : ∀ c ∈ padded width value, isDigit c = true := fun _ => isDigit_of_mem_padded
  have reads := @fixedDigits_append _ rest all 0
  rwa [length_padded wide small, ofDigitChars_padded] at reads

theorem bounded_padded {width low high value : Nat} (wide : 0 < width)
    (narrow : high < 10 ^ width) (least : low ≤ value) (most : value ≤ high) (rest : List Char) :
    bounded width low high (padded width value ++ rest) = some (value, rest) := by
  simp only [bounded, fixedDigits_padded wide (Nat.lt_of_le_of_lt most narrow),
    Option.bind_eq_bind, Option.bind_some, least, most, decide_true, Bool.and_self, if_true]

theorem expect_cons (mark : Char) : expect mark (mark :: rest) = some ((), rest) := if_pos rfl

structure Date.IsValid (date : Date) : Prop where
  year : date.year < 10000
  month : 1 ≤ date.month ∧ date.month ≤ 12
  day : 1 ≤ date.day ∧ date.day ≤ daysIn date.year date.month

theorem daysIn_le (year month : Nat) : daysIn year month ≤ 31 := by
  unfold daysIn
  repeat' split
  all_goals omega

theorem date?_text {date : Date} (valid : date.IsValid) (rest : List Char) :
    date? (date.text ++ rest) = some (date, rest) := by
  have year : ∀ rest, fixedDigits 0 4 (padded 4 date.year ++ rest) = some (date.year, rest) :=
    fixedDigits_padded (by decide) valid.year
  have month : ∀ rest, bounded 2 1 12 (padded 2 date.month ++ rest) = some (date.month, rest) :=
    bounded_padded (by decide) (by decide) valid.month.1 valid.month.2
  have narrow := Nat.lt_of_le_of_lt (daysIn_le date.year date.month) (by decide : 31 < 10 ^ 2)
  have day : ∀ rest, bounded 2 1 (daysIn date.year date.month) (padded 2 date.day ++ rest) =
      some (date.day, rest) := bounded_padded (by decide) narrow valid.day.1 valid.day.2
  simp only [date?, Date.text, List.append_assoc, List.cons_append, bind, year, Option.bind,
    expect_cons, month, day]
  rfl

structure Clock.IsValid (clock : Clock) : Prop where
  hour : clock.hour ≤ 23
  minute : clock.minute ≤ 59
  second : clock.second ≤ 60
  nanosecond : clock.nanosecond < 1000000000

/-- Zeros that are cut off at the end come back when digits are filled up. -/
theorem take_filled (digits : List Char) :
    ((digits.reverse.dropWhile (· = '0')).reverse ++ List.replicate digits.length '0').take
      digits.length = digits := by
  have whole := List.takeWhile_append_dropWhile (p := (· = '0')) (l := digits.reverse)
  have zeros : digits.reverse.takeWhile (· = '0') =
      List.replicate (digits.reverse.takeWhile (· = '0')).length '0' :=
    List.eq_replicate_iff.mpr ⟨rfl, fun c member =>
      of_decide_eq_true (List.all_eq_true.mp List.all_takeWhile c member)⟩
  generalize digits.reverse.dropWhile (· = '0') = back at whole ⊢
  generalize (digits.reverse.takeWhile (· = '0')).length = count at zeros
  have split : digits = back.reverse ++ List.replicate count '0' := by
    rw [← List.reverse_reverse digits, ← whole, zeros, List.reverse_append, List.reverse_replicate]
  have filled : back.reverse ++ List.replicate digits.length '0' =
      digits ++ List.replicate back.length '0' := by
    rw [split, List.length_append, List.length_reverse, List.length_replicate, List.append_assoc,
      Nat.add_comm, List.replicate_add]
  rw [filled, List.take_left]

theorem fraction_of_nothing (ends : ∀ c ∈ rest.head?, isDigit c = false ∧ c ≠ '.') :
    fraction rest = (0, rest) := by
  cases rest with
  | nil => rfl
  | cons c rest =>
      rw [fraction]
      intro other others same
      exact absurd (List.cons.inj same).1 (ends c rfl).2

theorem fraction_stripped {nanosecond : Nat} (small : nanosecond < 1000000000)
    (present : nanosecond ≠ 0) (ends : ∀ c ∈ rest.head?, isDigit c = false ∧ c ≠ '.') :
    fraction ('.' :: (((padded 9 nanosecond).reverse.dropWhile (· = '0')).reverse ++ rest)) =
      (nanosecond, rest) := by
  have filled := take_filled (padded 9 nanosecond)
  rw [length_padded (by decide) small] at filled
  have all : ∀ c ∈ ((padded 9 nanosecond).reverse.dropWhile (· = '0')).reverse,
      isDigit c = true := fun c member =>
    isDigit_of_mem_padded (List.mem_reverse.mp ((List.dropWhile_sublist _).mem
      (List.mem_reverse.mp member)))
  generalize ((padded 9 nanosecond).reverse.dropWhile (· = '0')).reverse = kept at filled all
  have value : nanoseconds kept = nanosecond := by
    refine Eq.trans ?_ (ofDigitChars_padded 9 nanosecond)
    rw [nanoseconds, filled, Nat.ofDigitChars_eq_foldl]
    refine List.foldl_ext _ _ _ fun value c _ => ?_
    rw [Nat.mul_comm]
    rfl
  cases kept with
  | nil => exact absurd value.symm present
  | cons c kept =>
      obtain ⟨digit, others⟩ := List.forall_mem_cons.mp all
      have stops : rest.takeWhile isDigit = [] ∧ rest.dropWhile isDigit = rest := by
        cases rest with
        | nil => exact ⟨rfl, rfl⟩
        | cons c rest => simp [(ends c rfl).1]
      rw [List.cons_append, fraction, if_pos digit, List.takeWhile_append_of_pos others,
        List.dropWhile_append_of_pos others, stops.1, stops.2, List.append_nil, value]

theorem clock?_text {clock : Clock} (valid : clock.IsValid)
    (ends : ∀ c ∈ rest.head?, isDigit c = false ∧ c ≠ '.') :
    clock? (clock.text ++ rest) = some (clock, rest) := by
  have hour : ∀ rest, bounded 2 0 23 (padded 2 clock.hour ++ rest) = some (clock.hour, rest) :=
    bounded_padded (by decide) (by decide) (Nat.zero_le _) valid.hour
  have minute : ∀ rest, bounded 2 0 59 (padded 2 clock.minute ++ rest) =
      some (clock.minute, rest) :=
    bounded_padded (by decide) (by decide) (Nat.zero_le _) valid.minute
  have second : ∀ rest, bounded 2 0 60 (padded 2 clock.second ++ rest) =
      some (clock.second, rest) :=
    bounded_padded (by decide) (by decide) (Nat.zero_le _) valid.second
  simp only [clock?, Clock.text, List.append_assoc, List.cons_append, bind, hour, Option.bind,
    expect_cons, minute, second]
  by_cases whole : clock.nanosecond = 0
  · simp only [whole, if_true, List.nil_append, fraction_of_nothing ends]
    rw [← whole]
    rfl
  · simp only [whole, if_false, List.cons_append, fraction_stripped valid.nanosecond whole ends]
    rfl

/-- An offset of nothing is written as one to the east. -/
def Offset.IsNormal : Offset → Prop
  | .utc => True
  | .hours west hour minute => hour ≤ 23 ∧ minute ≤ 59 ∧ (west = true → hour ≠ 0 ∨ minute ≠ 0)

theorem hours?_padded {hour minute : Nat} (day : hour ≤ 23) (sixty : minute ≤ 59) (west : Bool) :
    hours? west (padded 2 hour ++ ':' :: padded 2 minute) = some (.hours west hour minute, []) := by
  have last := bounded_padded (by decide : 0 < 2) (by decide : 59 < 10 ^ 2) (Nat.zero_le _) sixty []
  rw [List.append_nil] at last
  simp only [hours?, bind, bounded_padded (by decide : 0 < 2) (by decide : 23 < 10 ^ 2)
    (Nat.zero_le _) day, Option.bind, expect_cons, last]
  rfl

theorem Offset.exists_mark (offset : Offset) :
    ∃ mark tail, offset.text = mark :: tail ∧ mark ∈ ['Z', '+', '-'] := by
  cases offset with
  | utc => exact ⟨'Z', [], rfl, by decide⟩
  | hours west hour minute =>
      refine ⟨_, _, rfl, ?_⟩
      split <;> decide

theorem offset?_text {offset : Offset} (normal : offset.IsNormal) :
    offset? offset.text = some (offset, []) := by
  cases offset with
  | utc => rfl
  | hours west hour minute =>
      obtain ⟨day, sixty, apart⟩ := normal
      cases west with
      | false => exact hours?_padded day sixty false
      | true =>
          have behind : (hour ≠ 0 || minute ≠ 0) = true := by simpa using apart rfl
          simp only [Offset.text, behind, Bool.and_self, if_true]
          exact hours?_padded day sixty true

def Moment.IsNormal : Moment → Prop
  | .dateOnly date => date.IsValid
  | .clockOnly clock => clock.IsValid
  | .both date clock offset =>
      date.IsValid ∧ clock.IsValid ∧ ∀ given ∈ offset, given.IsNormal

theorem fixedDigits_of_mark {mark : Char} (stops : isDigit mark = false)
    (all : ∀ c ∈ digits, isDigit c = true) (more value : Nat) :
    fixedDigits value (digits.length + more + 1) (digits ++ mark :: rest) = none := by
  induction digits generalizing value with
  | nil => simp [fixedDigits, stops]
  | cons c digits ih =>
      obtain ⟨digit, others⟩ := List.forall_mem_cons.mp all
      rw [List.length_cons, Nat.add_right_comm digits.length, List.cons_append, fixedDigits,
        if_pos digit]
      exact ih others _

theorem date?_clock {clock : Clock} (valid : clock.IsValid) : date? clock.text = none := by
  have all : ∀ c ∈ padded 2 clock.hour, isDigit c = true := fun _ => isDigit_of_mem_padded
  have short := length_padded (by decide) (Nat.lt_of_le_of_lt valid.hour (by decide : 23 < 10 ^ 2))
  have broken := @fixedDigits_of_mark _ (padded 2 clock.minute ++ ':' :: (padded 2 clock.second ++
    if clock.nanosecond = 0 then [] else '.' ::
      ((padded 9 clock.nanosecond).reverse.dropWhile (· = '0')).reverse)) ':' rfl all 1 0
  rw [short] at broken
  simp only [date?, Clock.text, List.append_assoc, List.cons_append, bind, broken, Option.bind]

/-- What a moment is taken for as text is read as that moment. -/
theorem moment?_text {moment : Moment} (normal : moment.IsNormal) :
    moment? moment.text.toList = some (moment, []) := by
  cases moment with
  | dateOnly date =>
      have reads := date?_text normal []
      rw [List.append_nil] at reads
      simp only [moment?, Moment.text, String.toList_ofList, reads, clockAfterDate?]
  | clockOnly clock =>
      have reads : clock? (clock.text ++ []) = some (clock, []) := clock?_text normal nofun
      rw [List.append_nil] at reads
      simp only [moment?, Moment.text, String.toList_ofList, date?_clock normal, reads,
        Option.map_some]
  | both date clock offset =>
      obtain ⟨calendar, day, given⟩ := normal
      have ends : ∀ c ∈ ((offset.map Offset.text).getD []).head?, isDigit c = false ∧ c ≠ '.' := by
        cases offset with
        | none => exact nofun
        | some offset =>
            obtain ⟨mark, tail, text, listed⟩ := offset.exists_mark
            have plain : ∀ mark ∈ ['Z', '+', '-'], isDigit mark = false ∧ mark ≠ '.' := by
              simp [isDigit]
            intro c member
            rw [Option.map_some, Option.getD_some, text] at member
            cases member
            exact plain mark listed
      have time := clock?_text day ends
      have after : clockAfterDate? ('T' :: (clock.text ++ (offset.map Offset.text).getD [])) =
          some (clock, (offset.map Offset.text).getD []) := time
      simp only [moment?, Moment.text, String.toList_ofList, List.append_assoc, List.cons_append,
        date?_text calendar, after]
      cases offset with
      | none => rfl
      | some offset =>
          simp only [Option.map_some, Option.getD_some, offset?_text (given offset rfl)]

example : (moment? "1979-05-27 07:32:00.1200-00:00".toList).map (·.1.text) =
    some "1979-05-27T07:32:00.12+00:00" := by
  decide

end KeywordHarvest.Toml
