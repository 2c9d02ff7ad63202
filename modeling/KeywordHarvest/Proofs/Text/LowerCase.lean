import KeywordHarvest.Proofs.Text.Decoded
import KeywordHarvest.Settings.Address
import Mathlib.Data.List.TakeWhile

/-! Lower case once more, and lower case of the names that addresses are made of. No image of a row
of the mapping is mapped again, so a text in lower case stays as it is. The characters of names have
images of one character that do not depend on what stands around them, so a key that is in lower
case starts with a name that is. -/

namespace KeywordHarvest.Text

namespace Case

def Row.Covers (row : Row) (code : Nat) : Prop :=
  row.first ≤ code ∧ code ≤ row.last ∧ (code - row.first) % row.step = 0

/-- No image of a row is mapped by another one: it lies outside of that row, or between the codes
that it maps. -/
def Row.clears (row other : Row) : Bool :=
  Nat.blt (row.image + (row.last - row.first)) other.first || Nat.blt other.last row.image ||
    (Nat.beq other.step 2 && Nat.beq ((row.image + other.first) % 2) 1 &&
      (Nat.beq row.step 2 || Nat.beq row.first row.last))

theorem lowerRows_clear : (lowerRows.all fun row => lowerRows.all row.clears) = true := by
  decide +kernel

theorem lowerRows_undotted :
    (lowerRows.all fun row => row.image + (row.last - row.first) < 0x130 || 0x130 < row.image) =
      true := by
  decide +kernel

variable {rows : List Row} {row other : Row} {code : Nat}

theorem lowerCode_of_not_covers (free : ∀ row ∈ rows, ¬ row.Covers code) :
    lowerCode code rows = code := by
  induction rows with
  | nil => rfl
  | cons row rows ih =>
      obtain ⟨own, others⟩ := List.forall_mem_cons.mp free
      rw [lowerCode]
      split
      case isTrue => rfl
      case isFalse beyond =>
        rw [if_neg, ih others]
        simp only [Bool.and_eq_true, decide_eq_true_eq]
        exact fun ⟨within, even⟩ => own ⟨Nat.le_of_not_lt beyond, within, even⟩

theorem lowerCode_cases (code : Nat) (rows : List Row) : lowerCode code rows = code ∨
    ∃ row ∈ rows, row.Covers code ∧ lowerCode code rows = row.image + (code - row.first) := by
  induction rows with
  | nil => exact .inl rfl
  | cons row rows ih =>
      rw [lowerCode]
      split
      case isTrue => exact .inl rfl
      case isFalse beyond =>
        split
        case isTrue covered =>
          simp only [Bool.and_eq_true, decide_eq_true_eq] at covered
          exact .inr ⟨row, List.mem_cons_self, ⟨Nat.le_of_not_lt beyond, covered⟩, rfl⟩
        case isFalse =>
          rcases ih with same | ⟨other, among, found⟩
          · exact .inl same
          · exact .inr ⟨other, List.mem_cons_of_mem row among, found⟩

theorem Row.not_covers_image (clear : row.clears other = true) (covered : row.Covers code) :
    ¬ other.Covers (row.image + (code - row.first)) := by
  simp only [clears, Bool.or_eq_true, Bool.and_eq_true, Nat.blt_eq, Nat.beq_eq] at clear
  obtain ⟨above, below, own⟩ := covered
  rintro ⟨after, before, even⟩
  rcases clear with (less | more) | ⟨⟨pairs, odd⟩, width⟩
  · omega
  · omega
  · rw [pairs] at even
    rcases width with step | single
    · rw [step] at own
      omega
    · omega

theorem lowerCode_lowerCode (code : Nat) :
    lowerCode (lowerCode code lowerRows) lowerRows = lowerCode code lowerRows := by
  rcases lowerCode_cases code lowerRows with same | ⟨row, among, covered, image⟩
  · rw [same, same]
  · rw [image]
    have clear := List.all_eq_true.mp (List.all_eq_true.mp lowerRows_clear row among)
    exact lowerCode_of_not_covers fun other there => Row.not_covers_image (clear other there) covered

theorem lowerCode_ne_dotted (apart : code ≠ 0x130) : lowerCode code lowerRows ≠ 0x130 := by
  rcases lowerCode_cases code lowerRows with same | ⟨row, among, ⟨above, below, _⟩, image⟩
  · rwa [same]
  · have outside := List.all_eq_true.mp lowerRows_undotted row among
    simp only [Bool.or_eq_true, decide_eq_true_eq] at outside
    omega

end Case

/-- A character whose image is one character, wherever it stands. -/
def IsSimple (c : Char) : Prop := c ≠ 'Σ' ∧ c ≠ 'İ'

def simpleLower (c : Char) : Char := Char.ofNat (Case.lowerCode c.toNat Case.lowerRows)

theorem simpleLower_simpleLower (c : Char) : simpleLower (simpleLower c) = simpleLower c := by
  unfold simpleLower
  by_cases valid : (Case.lowerCode c.toNat Case.lowerRows).isValidChar
  · have same : (Char.ofNat (Case.lowerCode c.toNat Case.lowerRows)).toNat = _ := val_ofNat valid
    rw [same, Case.lowerCode_lowerCode]
  · have null : Char.ofNat (Case.lowerCode c.toNat Case.lowerRows) = '\x00' := by
      rw [Char.ofNat, dif_neg valid]
      rfl
    rw [null]
    rfl

theorem isSimple_simpleLower {c : Char} (simple : IsSimple c) : IsSimple (simpleLower c) := by
  constructor
  · intro sigma
    have again := simpleLower_simpleLower c
    rw [sigma] at again
    exact absurd again (by decide +kernel)
  · intro dotted
    have code : Case.lowerCode c.toNat Case.lowerRows ≠ 0x130 :=
      Case.lowerCode_ne_dotted fun same => simple.2 (Char.toNat_inj.mp same)
    unfold simpleLower at dotted
    by_cases valid : (Case.lowerCode c.toNat Case.lowerRows).isValidChar
    · have same : (Char.ofNat (Case.lowerCode c.toNat Case.lowerRows)).toNat = _ := val_ofNat valid
      rw [dotted] at same
      exact code same.symm
    · rw [Char.ofNat, dif_neg valid] at dotted
      exact absurd dotted (by decide)

theorem lowerFrom_append {front : List Char} (before rest : List Char)
    (simple : ∀ c ∈ front, IsSimple c) :
    lowerFrom before (front ++ rest) =
      front.map simpleLower ++ lowerFrom (front.reverse ++ before) rest := by
  induction front generalizing before with
  | nil => rfl
  | cons c front ih =>
      obtain ⟨notSigma, notDotted⟩ := simple c List.mem_cons_self
      have later := ih (c :: before) fun d member => simple d (List.mem_cons_of_mem c member)
      rw [List.cons_append, lowerFrom, later]
      simp [notSigma, notDotted, lowerChar, simpleLower]

theorem small_of_mem_lowerFrom {before text : List Char} {c : Char}
    (among : c ∈ lowerFrom before text) : IsSimple c ∧ simpleLower c = c := by
  induction text generalizing before with
  | nil => cases among
  | cons own rest ih =>
      rw [lowerFrom] at among
      rcases List.mem_append.mp among with image | later
      · split at image
        case isTrue =>
          cases List.mem_singleton.mp image
          split <;> exact ⟨⟨by decide, by decide⟩, by decide +kernel⟩
        case isFalse notSigma =>
          rw [lowerChar] at image
          split at image
          case isTrue =>
            simp only [List.mem_cons, List.not_mem_nil, or_false] at image
            rcases image with rfl | rfl <;> exact ⟨⟨by decide, by decide⟩, by decide +kernel⟩
          case isFalse notDotted =>
            cases List.mem_singleton.mp image
            exact ⟨isSimple_simpleLower ⟨notSigma, notDotted⟩, simpleLower_simpleLower own⟩
      · exact ih later

theorem lowerCase_lowerCase (text : String) : lowerCase (lowerCase text) = lowerCase text := by
  have small : ∀ c ∈ lowerFrom [] text.toList, IsSimple c ∧ simpleLower c = c := fun c among =>
    small_of_mem_lowerFrom among
  have again := lowerFrom_append [] [] fun c among => (small c among).1
  rw [List.append_nil, List.map_congr_left fun c among => (small c among).2, List.map_id'] at again
  rw [lowerCase, lowerCase, String.toList_ofList, again, lowerFrom, List.append_nil]

theorem lowerCase_front {front : List Char} (rest : List Char) (simple : ∀ c ∈ front, IsSimple c)
    (small : lowerCase (String.ofList (front ++ rest)) = String.ofList (front ++ rest)) :
    lowerCase (String.ofList front) = String.ofList front := by
  have images : front.map simpleLower = front := by
    have whole := congrArg String.toList small
    simp only [lowerCase, String.toList_ofList, lowerFrom_append _ _ simple] at whole
    exact (List.append_inj whole (by simp)).1
  have alone := lowerFrom_append [] [] simple
  rw [List.append_nil] at alone
  rw [lowerCase, String.toList_ofList, alone, images]
  simp [lowerFrom]

end KeywordHarvest.Text

namespace KeywordHarvest.Address

theorem isSimple_of_isNameChar {c : Char} (named : isNameChar c) : Text.IsSimple c := by
  constructor
  · rintro rfl
    exact absurd named (by decide)
  · rintro rfl
    exact absurd named (by decide)

/-- The first name of a key with a path stands in front of the key. -/
theorem name_of_path {key : String} (path : (ofKey key).steps ≠ []) :
    (ofKey key).name = String.ofList (key.toList.takeWhile isNameChar) ∧
      key.toList.takeWhile isNameChar ≠ [] := by
  unfold ofKey at path ⊢
  dsimp only at path ⊢
  split
  · split <;> simp_all
  · simp_all

theorem lowerCase_name {key : String} (path : (ofKey key).steps ≠ [])
    (small : Text.lowerCase key = key) :
    Text.lowerCase (ofKey key).name = (ofKey key).name := by
  have simple : ∀ c ∈ key.toList.takeWhile isNameChar, Text.IsSimple c := fun c member =>
    isSimple_of_isNameChar (List.all_eq_true.mp List.all_takeWhile c member)
  rw [(name_of_path path).1]
  refine Text.lowerCase_front (key.toList.dropWhile isNameChar) simple ?_
  rw [List.takeWhile_append_dropWhile, String.ofList_toList]
  exact small

theorem ofKey_name {key : String} (path : (ofKey key).steps ≠ []) :
    ofKey (ofKey key).name = ⟨(ofKey key).name, []⟩ := by
  obtain ⟨front, present⟩ := name_of_path path
  have all : ∀ c ∈ key.toList.takeWhile isNameChar, isNameChar c = true :=
    List.all_eq_true.mp List.all_takeWhile
  have taken : (key.toList.takeWhile isNameChar).takeWhile isNameChar =
      key.toList.takeWhile isNameChar := List.takeWhile_eq_self_iff.mpr all
  have dropped : (key.toList.takeWhile isNameChar).dropWhile isNameChar = [] :=
    List.dropWhile_eq_nil_iff.mpr all
  rw [front, ofKey]
  simp only [String.toList_ofList, taken, dropped, present, if_false, steps?]

end KeywordHarvest.Address
