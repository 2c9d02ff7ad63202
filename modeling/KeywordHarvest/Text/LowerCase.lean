import KeywordHarvest.Text.Case

/-! Lower case of a text. A sigma that ends a word, with a cased character before it and none after
it, becomes its final form; every other character maps on its own. -/

namespace KeywordHarvest.Text

def isCased (c : Char) : Bool := Case.cased.covers c.toNat

def isCaseIgnorable (c : Char) : Bool := Case.ignorable.covers c.toNat

def lowerChar (c : Char) : List Char :=
  if c = 'İ' then ['i', '\u0307'] else [Char.ofNat (Case.lowerCode c.toNat Case.lowerRows)]

/-- The first character that counts for a word's case is there and has case. -/
def meetsCased (text : List Char) : Bool :=
  match text.dropWhile isCaseIgnorable with
  | [] => false
  | c :: _ => isCased c

/-- What precedes is given nearest first. -/
def lowerFrom (before : List Char) : List Char → List Char
  | [] => []
  | c :: rest =>
      let image :=
        if c = 'Σ' then [if meetsCased before && !meetsCased rest then 'ς' else 'σ']
        else lowerChar c
      image ++ lowerFrom (c :: before) rest

def lowerCase (text : String) : String := String.ofList (lowerFrom [] text.toList)

example : lowerCase "List_Name" = "list_name" := by decide +kernel

example : lowerCase "ΟΔΟΣ Σ" = "οδος σ" := by decide +kernel

end KeywordHarvest.Text
