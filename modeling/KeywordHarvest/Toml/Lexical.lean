/-! Characters, blanks, comments and line ends of TOML text. A reader takes the characters still to
come and gives what it read with the characters left, or nothing where the text is malformed. -/

namespace KeywordHarvest.Toml

abbrev Reader (α : Type) := List Char → Option (α × List Char)

/-- Everything but the control characters; the tab counts as text. -/
def isTextChar (c : Char) : Bool := c = '\t' || (' ' ≤ c && c ≠ '\x7f')

def isBlank (c : Char) : Bool := c = ' ' || c = '\t'

def afterBlanks (cs : List Char) : List Char := cs.dropWhile isBlank

def afterNewline? : List Char → Option (List Char)
  | '\n' :: rest => some rest
  | '\r' :: '\n' :: rest => some rest
  | _ => none

/-- What follows blanks, an optional comment, and the end of the line or of the text. -/
def afterLine? (cs : List Char) : Option (List Char) :=
  let ending :=
    match afterBlanks cs with
    | '#' :: comment => comment.dropWhile isTextChar
    | other => other
  if ending = [] then some [] else afterNewline? ending

/-- What follows any number of blanks, comments and line ends. Inside a comment everything is
passed over up to the line end. -/
def afterLines (comment : Bool) : List Char → List Char
  | [] => []
  | '\n' :: rest => afterLines false rest
  | '\r' :: '\n' :: rest => afterLines false rest
  | c :: rest =>
      if comment then
        if isTextChar c then afterLines true rest else c :: rest
      else if c = '#' then afterLines true rest
      else if isBlank c then afterLines false rest
      else c :: rest

def isDigit (c : Char) : Bool := '0' ≤ c && c ≤ '9'

def digitValue? (c : Char) : Option Nat :=
  if '0' ≤ c && c ≤ '9' then some (c.toNat - 48)
  else if 'a' ≤ c && c ≤ 'f' then some (c.toNat - 87)
  else if 'A' ≤ c && c ≤ 'F' then some (c.toNat - 55)
  else none

end KeywordHarvest.Toml
