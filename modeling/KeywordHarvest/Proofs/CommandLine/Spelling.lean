import KeywordHarvest.CommandLine.Arguments
import KeywordHarvest.Proofs.Text.RoundTrip

/-! The ways to write options as arguments: by name or by letter, with the value in the same
argument or in the next one, and the switch for the log joined with a letter after it. Each way is
recognised for what it is before anything is done with it. -/

namespace KeywordHarvest.CommandLine

structure Choice where
  value : Parameter → Option String
  stdout : Bool
  verbose : Bool
  known : ∀ name, value .format = some name → (Format.ofName? name).isSome

namespace Choice

def isOn (choice : Choice) : Switch → Bool
  | .stdout => choice.stdout
  | .verbose => choice.verbose
  | _ => false

def gives (choice : Choice) : Flag → Bool
  | .parameter which => (choice.value which).isSome
  | .switch which => choice.isOn which

end Choice

/-- A value that is not empty and starts neither like an option nor with an equals sign. -/
def IsModest (value : String) : Prop := ∃ c others, value.toList = c :: others ∧ c ≠ '-' ∧ c ≠ '='

/-- A parameter by its letter, which other letters may precede in the same argument. -/
inductive ByLetter (which : Parameter) (value : String) (before : List Char) : List String → Prop
  | joined {letter : Char} (named : (Flag.parameter which).letter? = some letter)
      (modest : IsModest value) :
      ByLetter which value before [String.ofList ('-' :: (before ++ [letter])) ++ value]
  | equals {letter : Char} (named : (Flag.parameter which).letter? = some letter) :
      ByLetter which value before [String.ofList ('-' :: (before ++ [letter, '='])) ++ value]
  | apart {letter : Char} (named : (Flag.parameter which).letter? = some letter)
      (modest : IsModest value) :
      ByLetter which value before [String.ofList ('-' :: (before ++ [letter])), value]

inductive Spelled (choice : Choice) : List Flag → List String → Prop
  | equals {which : Parameter} {value : String} (given : choice.value which = some value) :
      Spelled choice [.parameter which] ["--" ++ (Flag.parameter which).name ++ "=" ++ value]
  | apart {which : Parameter} {value : String} (given : choice.value which = some value)
      (modest : IsModest value) :
      Spelled choice [.parameter which] ["--" ++ (Flag.parameter which).name, value]
  | letter {which : Parameter} {value : String} {arguments : List String}
      (given : choice.value which = some value) (lettered : ByLetter which value [] arguments) :
      Spelled choice [.parameter which] arguments
  | cluster {which : Parameter} {value : String} {arguments : List String}
      (on : choice.isOn .verbose) (given : choice.value which = some value)
      (lettered : ByLetter which value ['v'] arguments) :
      Spelled choice [.switch .verbose, .parameter which] arguments
  | switch {which : Switch} (on : choice.isOn which) :
      Spelled choice [.switch which] ["--" ++ (Flag.switch which).name]
  | switchLetter {which : Switch} {letter : Char} (on : choice.isOn which)
      (named : (Flag.switch which).letter? = some letter) :
      Spelled choice [.switch which] [String.ofList ['-', letter]]

inductive Spells (choice : Choice) : List Flag → List String → Prop
  | nil : Spells choice [] []
  | cons {flags others : List Flag} {arguments rest : List String}
      (first : Spelled choice flags arguments) (more : Spells choice others rest) :
      Spells choice (flags ++ others) (arguments ++ rest)

/-- The options of a choice, each one once, in any order and any writing. -/
def Choice.IsWritten (choice : Choice) (arguments : List String) : Prop :=
  ∃ order : List Flag, order.Nodup ∧ (∀ flag, flag ∈ order ↔ choice.gives flag) ∧
    Spells choice order arguments

theorem utf8EncodeChar_start (c : Char) : ∃ first more, String.utf8EncodeChar c = first :: more ∧
    (first.toNat < 0x80 → first.toNat = c.toNat) := by
  have value (code : Nat) : (UInt8.ofNat code).toNat = code % 256 := UInt8.toNat_ofNat'
  fun_cases String.utf8EncodeChar c with
  | case1 code one =>
      refine ⟨_, [], rfl, fun _ => ?_⟩
      rw [value]
      have small : code = c.toNat := rfl
      omega
  | case2 code more two =>
      refine ⟨_, _, rfl, fun low => ?_⟩
      rw [value] at low
      omega
  | case3 code _ more three =>
      refine ⟨_, _, rfl, fun low => ?_⟩
      rw [value] at low
      omega
  | case4 code _ _ more =>
      refine ⟨_, _, rfl, fun low => ?_⟩
      rw [value] at low
      omega

theorem IsModest.encode {value : String} (modest : IsModest value) :
    ∃ first more, Text.encode value = first :: more ∧ first ≠ 0x2D ∧ first ≠ 0x3D := by
  obtain ⟨c, others, chars, notDash, notEquals⟩ := modest
  obtain ⟨first, more, encoded, small⟩ := utf8EncodeChar_start c
  refine ⟨first, more ++ others.flatMap String.utf8EncodeChar, ?_, ?_, ?_⟩
  · rw [Text.encode, chars, List.flatMap_cons, encoded]
    rfl
  · rintro rfl
    exact notDash (Char.toNat_inj.mp (small (by decide)).symm)
  · rintro rfl
    exact notEquals (Char.toNat_inj.mp (small (by decide)).symm)

namespace Argument

theorem ofBytes_modest {value : String} (modest : IsModest value) :
    ofBytes (Text.encode value) = .word (Text.encode value) := by
  obtain ⟨first, more, encoded, notDash, _⟩ := modest.encode
  rw [encoded]
  unfold ofBytes
  split <;> simp_all

theorem ofBytes_name (flag : Flag) :
    ofBytes (Text.encode ("--" ++ flag.name)) = .long (Text.encode flag.name) none := by
  rcases flag with which | which <;> cases which <;> rfl

theorem ofBytes_equals (flag : Flag) (value : String) :
    ofBytes (Text.encode ("--" ++ flag.name ++ "=" ++ value)) =
      .long (Text.encode flag.name) (some (Text.encode value)) := by
  rw [Text.encode_append]
  rcases flag with which | which <;> cases which <;> rfl

theorem ofBytes_letters {first : UInt8} (apart : first ≠ 0x2D) (letters : Bytes) :
    ofBytes (0x2D :: first :: letters) = .short (first :: letters) := by
  unfold ofBytes
  split <;> simp_all

end Argument

theorem Flag.ofName?_encode (flag : Flag) :
    ofName? (Text.lenient (Text.encode flag.name)) = some flag := by
  rw [Text.lenient_eq_of_decode? (Text.decode?_encode flag.name), ofName?_name]

theorem Flag.letter_byte {flag : Flag} {letter : Char} (named : flag.letter? = some letter) :
    ∃ byte : UInt8, String.utf8EncodeChar letter = [byte] ∧ byte ≠ 0x2D ∧
      Flag.ofLetter? (Char.ofNat byte.toNat) = some flag := by
  rcases flag with which | which <;> cases which <;> cases named <;>
    exact ⟨_, rfl, by decide, rfl⟩

theorem Argument.ofBytes_joined {before : List Char} {letter : Char} {flag : Flag}
    (alone : before = [] ∨ before = ['v']) (named : flag.letter? = some letter)
    (after : List Char) (value : String) :
    ofBytes (Text.encode (String.ofList ('-' :: (before ++ letter :: after)) ++ value)) =
      .short (Text.encode (String.ofList (before ++ letter :: after) ++ value)) := by
  obtain ⟨byte, encoded, notDash, _⟩ := Flag.letter_byte named
  have dash : String.utf8EncodeChar '-' = [0x2D] := rfl
  have log : String.utf8EncodeChar 'v' = [0x76] := rfl
  rcases alone with rfl | rfl
  · simpa [Text.encode, dash, encoded] using ofBytes_letters notDash _
  · simpa [Text.encode, dash, log] using ofBytes_letters (by decide) _

end KeywordHarvest.CommandLine
