import KeywordHarvest.Text.LowerCase
import KeywordHarvest.Toml.Numeral

/-! Keys of a configuration file as addresses. A key of the form `name.part[0]` leads from a name
to a part of its value, by steps to a named part or to an element; any other key stands for
itself. -/

namespace KeywordHarvest

/-- A negative index counts from the end of a list. -/
inductive Address.Step
  | part (name : String)
  | element (index : Int)
  deriving DecidableEq

structure Address where
  name : String
  steps : List Address.Step
  deriving DecidableEq

namespace Address

def isNameChar (c : Char) : Bool :=
  ('a' ≤ c && c ≤ 'z') || ('A' ≤ c && c ≤ 'Z') || Toml.isDigit c || c = ' ' || c = '_' || c = '-'

def afterMinus : List Char → List Char
  | '-' :: rest => rest
  | cs => cs

def afterBracket? : List Char → Option (List Char)
  | ']' :: rest => some rest
  | _ => none

def index? : Toml.Reader Int := fun cs =>
  let digits := (afterMinus cs).takeWhile Toml.isDigit
  let size : Int := Toml.valueIn 10 digits
  let index := if cs.head? = some '-' then -size else size
  if digits ≠ [] && Toml.inRange index then
    some (index, (afterMinus cs).dropWhile Toml.isDigit)
  else none

def bracketed? : Toml.Reader Int := fun cs => do
  let (index, rest) ← index? (Toml.afterBlanks cs)
  let rest ← afterBracket? (Toml.afterBlanks rest)
  return (index, rest)

theorem length_bracketed? {cs rest : List Char} {index : Int}
    (found : bracketed? cs = some (index, rest)) : rest.length < cs.length := by
  have blanks (text : List Char) : (Toml.afterBlanks text).length ≤ text.length :=
    (List.dropWhile_sublist Toml.isBlank).length_le
  have minus (text : List Char) : (afterMinus text).length ≤ text.length := by
    unfold afterMinus; split <;> simp
  have bracket {text rest : List Char} (closed : afterBracket? text = some rest) :
      rest.length < text.length := by
    unfold afterBracket? at closed
    split at closed <;> cases closed
    simp
  have digits {text after : List Char} {value : Int} (read : index? text = some (value, after)) :
      after.length ≤ text.length := by
    simp only [index?, Option.ite_none_right_eq_some, Option.some.injEq, Prod.mk.injEq] at read
    obtain ⟨_, _, rfl⟩ := read
    exact Nat.le_trans (List.dropWhile_sublist Toml.isDigit).length_le (minus text)
  simp only [bracketed?, Option.bind_eq_bind, Option.bind_eq_some_iff, Option.pure_def,
    Option.some.injEq, Prod.mk.injEq] at found
  obtain ⟨⟨value, after⟩, read, close, closed, _, rfl⟩ := found
  exact Nat.lt_of_lt_of_le (bracket closed)
    (Nat.le_trans (blanks _) (Nat.le_trans (digits read) (blanks cs)))

def steps? (cs : List Char) : Option (List Step) :=
  match cs with
  | [] => some []
  | '.' :: rest =>
      let name := rest.takeWhile isNameChar
      let after := rest.dropWhile isNameChar
      have : after.length < rest.length + 1 :=
        Nat.lt_succ_of_le (List.dropWhile_sublist isNameChar).length_le
      if name = [] then none else (steps? after).map (.part (String.ofList name) :: ·)
  | '[' :: rest =>
      match found : bracketed? rest with
      | none => none
      | some (index, after) =>
          have : after.length < rest.length + 1 := Nat.lt_succ_of_lt (length_bracketed? found)
          (steps? after).map (.element index :: ·)
  | _ => none
  termination_by cs.length
  decreasing_by all_goals simp only [List.length_cons]; assumption

def ofKey (key : String) : Address :=
  let name := key.toList.takeWhile isNameChar
  match steps? (key.toList.dropWhile isNameChar) with
  | some steps => if name = [] then ⟨key, []⟩ else ⟨String.ofList name, steps⟩
  | none => ⟨key, []⟩

def lowerLast : List Step → List Step
  | [] => []
  | [.part name] => [.part (Text.lowerCase name)]
  | step :: steps => step :: lowerLast steps

/-- Where a value goes that has this address for a key. Only the last name counts in any letter
case; the ones before it are looked up as they are. -/
def target (address : Address) : Address :=
  match address.steps with
  | [] => ⟨Text.lowerCase address.name, []⟩
  | steps => ⟨address.name, lowerLast steps⟩

def targetOf (key : String) : Address := (ofKey key).target

def endsInElement (address : Address) : Bool :=
  match address.steps.getLast? with
  | some (.element _) => true
  | _ => false

def descend (address : Address) (part : String) : Address :=
  ⟨address.name, address.steps ++ [.part part]⟩

example : ofKey "marker[ -1 ].a b" = ⟨"marker", [.element (-1), .part "a b"]⟩ := by decide +kernel

example : ofKey "marker[x]" = ⟨"marker[x]", []⟩ := by decide +kernel

example : targetOf "Format.JSON" = ⟨"Format", [.part "json"]⟩ := by decide +kernel

end Address

end KeywordHarvest
