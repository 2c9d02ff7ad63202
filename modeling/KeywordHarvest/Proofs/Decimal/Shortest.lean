import Mathlib.Data.List.Basic
import Mathlib.Data.Nat.Digits.Defs
import KeywordHarvest.Decimal.Shortest

/-! Which decimal stands for a binary number: one with the fewest digits among those that read back,
of these the nearest, and of two equally near the larger. Seventeen digits are always enough: on the
grid of that many the steps are shorter than the range of what reads back. -/

namespace KeywordHarvest.Decimal

namespace Measured

variable {m : Measured} {count other : Nat}

/-- How far a number of steps is from the value. -/
def distance (m : Measured) (count : Nat) : Nat :=
  (m.value - count * m.step) + (count * m.step - m.value)

structure IsPositive (m : Measured) : Prop where
  down : 0 < m.down
  up : 0 < m.up
  step : 0 < m.step

/-- It reads back, and what else reads back is farther, or no larger where it is as near. -/
structure IsBest (m : Measured) (count : Nat) : Prop where
  reads : m.readsBack count = true
  nearest : ∀ other, m.readsBack other = true → m.distance count ≤ m.distance other
  largest : ∀ other, m.readsBack other = true → m.distance other = m.distance count → other ≤ count

theorem readsBack_iff : m.readsBack count = true ↔
    if m.closed then m.value ≤ count * m.step + m.down ∧ count * m.step ≤ m.value + m.up
    else m.value < count * m.step + m.down ∧ count * m.step < m.value + m.up := by
  unfold readsBack
  cases m.closed <;> simp

theorem below_le (m : Measured) : m.value / m.step * m.step ≤ m.value :=
  Nat.div_mul_le_self m.value m.step

theorem lt_above (positive : m.IsPositive) : m.value < (m.value / m.step + 1) * m.step := by
  rw [Nat.mul_comm]
  exact Nat.lt_mul_div_succ m.value positive.step

theorem readsBack_below (positive : m.IsPositive) (reads : m.readsBack other = true)
    (early : other ≤ m.value / m.step) : m.readsBack (m.value / m.step) = true := by
  have nearer := Nat.mul_le_mul_right m.step early
  have under := m.below_le
  have room := positive.up
  rw [readsBack_iff] at reads ⊢
  split at reads
  case isTrue closed =>
    rw [if_pos closed]
    omega
  case isFalse strict =>
    rw [if_neg strict]
    omega

theorem readsBack_above (positive : m.IsPositive) (reads : m.readsBack other = true)
    (late : m.value / m.step < other) : m.readsBack (m.value / m.step + 1) = true := by
  have nearer := Nat.mul_le_mul_right m.step (Nat.succ_le_of_lt late)
  have beyond := lt_above positive
  have room := positive.down
  rw [Nat.succ_eq_add_one] at nearer
  rw [readsBack_iff] at reads ⊢
  split at reads
  case isTrue closed =>
    rw [if_pos closed]
    omega
  case isFalse strict =>
    rw [if_neg strict]
    omega

/-- Where a number of steps lies, and how far it is from the value. -/
theorem distance_cases (positive : m.IsPositive) (count : Nat) :
    count < m.value / m.step ∧ m.value % m.step < m.distance count ∨
      count = m.value / m.step ∧ m.distance count = m.value % m.step ∨
      count = m.value / m.step + 1 ∧ m.distance count = m.step - m.value % m.step ∨
      m.value / m.step + 1 < count ∧ m.step - m.value % m.step < m.distance count := by
  have whole := Nat.div_add_mod' m.value m.step
  have rest := Nat.mod_lt m.value positive.step
  unfold distance
  rcases Nat.lt_or_ge count (m.value / m.step) with early | rest
  · have apart := Nat.mul_le_mul_right m.step (Nat.succ_le_of_lt early)
    rw [Nat.succ_eq_add_one, Nat.add_mul, Nat.one_mul] at apart
    omega
  rcases Nat.eq_or_lt_of_le rest with rfl | late
  · omega
  rcases Nat.eq_or_lt_of_le (Nat.succ_le_of_lt late) with rfl | later
  · rw [Nat.succ_eq_add_one, Nat.add_mul, Nat.one_mul]
    omega
  · have apart := Nat.mul_le_mul_right m.step (Nat.succ_le_of_lt later)
    simp only [Nat.succ_eq_add_one, Nat.add_mul, Nat.one_mul] at apart
    omega

theorem isBest_of_neighbour? (positive : m.IsPositive) (found : m.neighbour? = some count) :
    m.IsBest count := by
  have own := distance_cases positive count
  have places := distance_cases positive
  have rest := Nat.mod_lt m.value positive.step
  cases low : m.readsBack (m.value / m.step) with
  | false =>
      have above (other : Nat) (reads : m.readsBack other = true) : m.value / m.step < other := by
        refine Nat.lt_of_not_le fun early => ?_
        rw [readsBack_below positive reads early] at low
        cases low
      cases high : m.readsBack (m.value / m.step + 1) with
      | false => simp [neighbour?, low, high] at found
      | true =>
          obtain rfl : m.value / m.step + 1 = count := by simpa [neighbour?, low, high] using found
          refine ⟨high, fun other reads => ?_, fun other reads _ => ?_⟩
          all_goals
            have late := above other reads
            have place := places other
            omega
  | true =>
      cases high : m.readsBack (m.value / m.step + 1) with
      | false =>
          have below (other : Nat) (reads : m.readsBack other = true) :
              other ≤ m.value / m.step := by
            refine Nat.le_of_not_lt fun late => ?_
            rw [readsBack_above positive reads late] at high
            cases high
          obtain rfl : m.value / m.step = count := by simpa [neighbour?, low, high] using found
          refine ⟨low, fun other reads => ?_, fun other reads _ => below other reads⟩
          have early := below other reads
          have place := places other
          omega
      | true =>
          by_cases nearer : 2 * (m.value % m.step) < m.step
          · obtain rfl : m.value / m.step = count := by
              simpa [neighbour?, low, high, nearer] using found
            refine ⟨low, fun other _ => ?_, fun other _ _ => ?_⟩
            all_goals
              have place := places other
              omega
          · obtain rfl : m.value / m.step + 1 = count := by
              simpa [neighbour?, low, high, nearer] using found
            refine ⟨high, fun other _ => ?_, fun other _ _ => ?_⟩
            all_goals
              have place := places other
              omega

theorem neighbour?_eq_none (positive : m.IsPositive) (missing : m.neighbour? = none) (count : Nat) :
    m.readsBack count = false := by
  refine Bool.eq_false_iff.mpr fun reads => ?_
  rcases Nat.lt_or_ge (m.value / m.step) count with late | early
  · have above := readsBack_above positive reads late
    cases low : m.readsBack (m.value / m.step) <;> simp [neighbour?, low, above] at missing
    split at missing <;> cases missing
  · have below := readsBack_below positive reads early
    cases high : m.readsBack (m.value / m.step + 1) <;> simp [neighbour?, below, high] at missing
    split at missing <;> cases missing

theorem exists_readsBack (positive : m.IsPositive) (wide : m.step < m.down + m.up) :
    ∃ count, m.readsBack count = true := by
  have whole := Nat.div_add_mod' m.value m.step
  have rest := Nat.mod_lt m.value positive.step
  have room := positive.up
  by_cases near : m.value % m.step < m.down
  · refine ⟨m.value / m.step, readsBack_iff.mpr ?_⟩
    split <;> omega
  · refine ⟨m.value / m.step + 1, readsBack_iff.mpr ?_⟩
    rw [Nat.add_mul, Nat.one_mul]
    split <;> omega

end Measured

theorem isPositive_measure (magnitude : Nat) (power : Int) :
    (measure magnitude power).IsPositive := by
  have twos (count : Nat) : 0 < Nat.pow 2 count := Nat.pow_pos (by decide)
  have tens (count : Nat) : 0 < Nat.pow 10 count := Nat.pow_pos (by decide)
  have gap : 0 < Binary64.spacing magnitude := twos _
  have one : 0 < Binary64.one := by decide +kernel
  refine ⟨Nat.mul_pos ?_ (tens _), Nat.mul_pos (by omega) (tens _), Nat.mul_pos (by omega) (tens _)⟩
  split <;> omega

theorem readsBack_of_onGrid?_eq_none {magnitude places : Nat}
    (missing : onGrid? magnitude places = none) (count : Nat) :
    (measure magnitude (leadingPower magnitude - places)).readsBack count = false :=
  Measured.neighbour?_eq_none (isPositive_measure magnitude _) (Option.map_eq_none_iff.mp missing)
    count

theorem lt_spacing (magnitude : Nat) : magnitude < 2 ^ 53 * Binary64.spacing magnitude := by
  have bound : magnitude < 2 ^ (magnitude.log2 + 1) := Nat.lt_log2_self
  refine Nat.lt_of_lt_of_le bound ?_
  rw [Binary64.spacing, Nat.pow_eq, ← Nat.pow_add]
  exact Nat.pow_le_pow_right (by decide) (by omega)

theorem pow_length_le {number : Nat} (positive : 0 < number) :
    10 ^ ((Nat.toDigits 10 number).length - 1) ≤ number := by
  rcases Nat.eq_zero_or_pos ((Nat.toDigits 10 number).length - 1) with least | longer
  · rw [least]
    exact positive
  · refine Nat.le_of_not_lt fun short => ?_
    have fewer := (Nat.length_toDigits_le_iff (by decide) longer).mpr short
    omega

theorem exists_leadingPower {magnitude : Nat} (positive : 0 < magnitude) :
    ∃ digits : Nat, leadingPower magnitude = digits - (325 : Nat) ∧
      10 ^ digits * Binary64.one ≤ magnitude * Nat.pow 10 325 := by
  have one : 0 < Binary64.one := by decide +kernel
  have small : Binary64.one ≤ Nat.pow 10 325 := by decide +kernel
  unfold leadingPower
  generalize Nat.pow 10 325 = scale at small ⊢
  have front := Nat.div_pos (Nat.le_trans small (Nat.le_mul_of_pos_left _ positive)) one
  have leading := Nat.mul_le_mul_right Binary64.one (pow_length_le front)
  have written := List.length_pos_iff.mpr
    (Nat.toDigits_ne_nil (b := 10) (n := magnitude * scale / Binary64.one))
  exact ⟨_, by omega, Nat.le_trans leading (Nat.div_mul_le_self _ _)⟩

theorem step_le_value {magnitude : Nat} (positive : 0 < magnitude) :
    (measure magnitude (leadingPower magnitude - (16 : Nat))).step * 10 ^ 16 ≤
      (measure magnitude (leadingPower magnitude - (16 : Nat))).value := by
  obtain ⟨digits, lead, below⟩ := exists_leadingPower positive
  generalize 325 = base at lead below
  rw [lead]
  unfold measure
  generalize up : ((digits : Int) - base - (16 : Nat)).toNat = coarse
  generalize down : (-((digits : Int) - base - (16 : Nat))).toNat = fine
  have same : coarse + 16 + base = digits + fine := by omega
  have places : 10 ^ coarse * 10 ^ 16 * 10 ^ base = 10 ^ digits * 10 ^ fine := by
    rw [← Nat.pow_add, ← Nat.pow_add, ← Nat.pow_add, same]
  dsimp only [Nat.pow_eq] at below ⊢
  generalize Binary64.one = unit at below ⊢
  refine Nat.le_of_mul_le_mul_right (c := 10 ^ base) ?_ (Nat.pow_pos (by decide))
  calc 4 * unit * 10 ^ coarse * 10 ^ 16 * 10 ^ base
      = 4 * unit * (10 ^ coarse * 10 ^ 16 * 10 ^ base) := by simp only [Nat.mul_assoc]
    _ = 4 * (10 ^ digits * unit) * 10 ^ fine := by rw [places]; ac_rfl
    _ ≤ 4 * (magnitude * 10 ^ base) * 10 ^ fine :=
        Nat.mul_le_mul_right _ (Nat.mul_le_mul_left 4 below)
    _ = 4 * magnitude * 10 ^ fine * 10 ^ base := by ac_rfl

theorem step_lt_width {magnitude : Nat} (positive : 0 < magnitude) :
    (measure magnitude (leadingPower magnitude - (16 : Nat))).step <
      (measure magnitude (leadingPower magnitude - (16 : Nat))).down +
        (measure magnitude (leadingPower magnitude - (16 : Nat))).up := by
  have small := step_le_value positive
  have room := (isPositive_measure magnitude (leadingPower magnitude - (16 : Nat))).up
  have bound := lt_spacing magnitude
  unfold measure at small room ⊢
  dsimp only [Nat.pow_eq] at small room ⊢
  generalize 4 * Binary64.one * 10 ^ (leadingPower magnitude - (16 : Nat)).toNat = step at small ⊢
  generalize 10 ^ (-(leadingPower magnitude - (16 : Nat))).toNat = factor at small room ⊢
  generalize Binary64.spacing magnitude = gap at bound small room ⊢
  have scaled : magnitude * factor ≤ 2 ^ 53 * (gap * factor) := by
    rw [← Nat.mul_assoc]
    exact Nat.mul_le_mul_right factor (Nat.le_of_lt bound)
  rw [Nat.mul_assoc] at small room ⊢
  split
  case isTrue lowest =>
    -- Below a power of two the decimals that read back lie only half as far.
    simp only [Bool.and_eq_true, decide_eq_true_eq] at lowest
    rw [lowest.1, Nat.mul_assoc] at small
    omega
  case isFalse =>
    rw [Nat.mul_assoc]
    omega

/-- Seventeen digits are enough for any magnitude. -/
theorem exists_seventeen {magnitude : Nat} (positive : 0 < magnitude) :
    ∃ count, (measure magnitude (leadingPower magnitude - (16 : Nat))).readsBack count = true :=
  Measured.exists_readsBack (isPositive_measure magnitude _) (step_lt_width positive)

theorem shortest_isBest {magnitude : Nat} (positive : 0 < magnitude) :
    ∃ places : Nat, places < 17 ∧ (shortest magnitude).exponent = leadingPower magnitude - places ∧
      (measure magnitude (shortest magnitude).exponent).IsBest (shortest magnitude).digits ∧
      ∀ fewer : Nat, fewer < places → ∀ count,
        (measure magnitude (leadingPower magnitude - fewer)).readsBack count = false := by
  cases found : (List.range 17).findSome? (onGrid? magnitude) with
  | none =>
      obtain ⟨count, reads⟩ := exists_seventeen positive
      have missing := List.findSome?_eq_none_iff.mp found 16 (List.mem_range.mpr (by decide))
      cases (readsBack_of_onGrid?_eq_none missing count).symm.trans reads
  | some number =>
      obtain ⟨fewer, places, more, split, here, missing⟩ := List.findSome?_eq_some_iff.mp found
      obtain ⟨count, best, rfl⟩ := Option.map_eq_some_iff.mp here
      have few : places ∈ List.range 17 := split ▸ List.mem_append_right fewer List.mem_cons_self
      have order : (fewer ++ places :: more).Pairwise (· < ·) := split ▸ List.pairwise_lt_range
      have known : shortest magnitude = ⟨count, leadingPower magnitude - places⟩ := by
        rw [shortest, found, Option.getD_some]
      rw [known]
      refine ⟨places, List.mem_range.mp few, rfl,
        Measured.isBest_of_neighbour? (isPositive_measure magnitude _) best, ?_⟩
      intro least small
      have member : least ∈ fewer ++ places :: more :=
        split ▸ List.mem_range.mpr (Nat.lt_trans small (List.mem_range.mp few))
      rcases List.mem_append.mp member with earlier | later
      · exact readsBack_of_onGrid?_eq_none (missing least earlier)
      · have bound := List.pairwise_cons.mp (List.pairwise_append.mp order).2.1
        rcases List.mem_cons.mp later with rfl | beyond
        · exact absurd small (Nat.lt_irrefl _)
        · exact absurd small (Nat.lt_asymm (bound.1 least beyond))

example : (Binary64.ofDecimal false 9007199254740993 0).text = "9007199254740992" := by
  decide +kernel

end KeywordHarvest.Decimal
