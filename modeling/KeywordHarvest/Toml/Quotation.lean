import KeywordHarvest.Toml.Lexical

/-! Strings of TOML text: basic ones in double quotes, where a backslash escapes, and literal ones
in single quotes; either kind can span lines between triple quotes. Readers here start after the
opening quotes and keep what they have read in reverse. -/

namespace KeywordHarvest.Toml

/-- An escape under way: just opened, or with so many hexadecimal digits still to come. -/
inductive Escape
  | opened
  | digits (left value : Nat)

def namedEscape? : Char → Option Char
  | 'b' => some '\x08'
  | 't' => some '\t'
  | 'n' => some '\n'
  | 'f' => some '\x0c'
  | 'r' => some '\r'
  | '"' => some '"'
  | '\\' => some '\\'
  | _ => none

def codePoint? (value : Nat) : Option Char :=
  if value.isValidChar then some (Char.ofNat value) else none

/-- An escape goes on, or is complete with its character. -/
def Escape.feed? : Escape → Char → Option (Escape ⊕ Char)
  | opened, 'u' => some (.inl (digits 4 0))
  | opened, 'U' => some (.inl (digits 8 0))
  | opened, c => (namedEscape? c).map .inr
  | digits left value, c => do
      let value := value * 16 + (← digitValue? c)
      if left = 1 then (codePoint? value).map .inr else some (.inl (digits (left - 1) value))

def basic (found : List Char) : Option Escape → Reader (List Char)
  | _, [] => none
  | some escape, c :: rest =>
      match escape.feed? c with
      | none => none
      | some (.inl escape) => basic found (some escape) rest
      | some (.inr denoted) => basic (denoted :: found) none rest
  | none, c :: rest =>
      if c = '"' then some (found.reverse, rest)
      else if c = '\\' then basic found (some .opened) rest
      else if isTextChar c then basic (c :: found) none rest
      else none

def literal (found : List Char) : Reader (List Char)
  | [] => none
  | c :: rest =>
      if c = '\'' then some (found.reverse, rest)
      else if isTextChar c then literal (c :: found) rest
      else none

/-- Three quotes close a multi-line string; up to two more before them belong to it. -/
def closing? (quote : Char) (cs : List Char) : Option (List Char × List Char) :=
  let run := (cs.take 5).takeWhile (· = quote)
  if run.length < 3 then none else some (run.drop 3, cs.drop run.length)

/-- Where a multi-line basic string stands: in its text, in an escape, or after a backslash that
ends a line, before or after that line end. -/
inductive Place
  | text
  | escape (escape : Escape)
  | lineEnd
  | indent

def multilineBasic (found : List Char) : Place → Reader (List Char)
  | _, [] => none
  | .lineEnd, '\n' :: rest => multilineBasic found .indent rest
  | .lineEnd, '\r' :: '\n' :: rest => multilineBasic found .indent rest
  | .lineEnd, c :: rest => if isBlank c then multilineBasic found .lineEnd rest else none
  | .escape .opened, '\n' :: rest => multilineBasic found .indent rest
  | .escape .opened, '\r' :: '\n' :: rest => multilineBasic found .indent rest
  | .escape escape, c :: rest =>
      match escape, isBlank c with
      | .opened, true => multilineBasic found .lineEnd rest
      | _, _ =>
          match escape.feed? c with
          | none => none
          | some (.inl escape) => multilineBasic found (.escape escape) rest
          | some (.inr denoted) => multilineBasic (denoted :: found) .text rest
  | .indent, '\n' :: rest => multilineBasic found .indent rest
  | .indent, '\r' :: '\n' :: rest => multilineBasic found .indent rest
  | .text, '\n' :: rest => multilineBasic ('\n' :: found) .text rest
  | .text, '\r' :: '\n' :: rest => multilineBasic ('\n' :: found) .text rest
  | place, c :: rest =>
      if place matches .indent && isBlank c then multilineBasic found .indent rest
      else if c = '\\' then multilineBasic found (.escape .opened) rest
      else
        match closing? '"' (c :: rest) with
        | some (quotes, after) => some (found.reverse ++ quotes, after)
        | none => if isTextChar c then multilineBasic (c :: found) .text rest else none

def multilineLiteral (found : List Char) : Reader (List Char)
  | [] => none
  | '\n' :: rest => multilineLiteral ('\n' :: found) rest
  | '\r' :: '\n' :: rest => multilineLiteral ('\n' :: found) rest
  | c :: rest =>
      match closing? '\'' (c :: rest) with
      | some (quotes, after) => some (found.reverse ++ quotes, after)
      | none => if isTextChar c then multilineLiteral (c :: found) rest else none

/-- A line end right after the opening quotes is left out. -/
def afterOpening (cs : List Char) : List Char := (afterNewline? cs).getD cs

def quotation? : Reader (List Char)
  | '"' :: '"' :: '"' :: rest => multilineBasic [] .text (afterOpening rest)
  | '"' :: rest => basic [] none rest
  | '\'' :: '\'' :: '\'' :: rest => multilineLiteral [] (afterOpening rest)
  | '\'' :: rest => literal [] rest
  | _ => none

end KeywordHarvest.Toml
