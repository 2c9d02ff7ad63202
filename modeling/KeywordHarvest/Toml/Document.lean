import KeywordHarvest.Toml.Expression

/-! A TOML document, line by line: blank lines and comments, headers of tables and of elements of
arrays of tables, and keys with their values, which go into the table under the last header. -/

namespace KeywordHarvest.Toml

structure Draft where
  root : Fields
  header : List String

namespace Draft

def empty : Draft := ⟨[], []⟩

def openTable (draft : Draft) (key : Key) : Option Draft := do
  return ⟨← draft.root.openTable key.path key.last, key.path ++ [key.last]⟩

def openElement (draft : Draft) (key : Key) : Option Draft := do
  return ⟨← draft.root.openElement key.path key.last, key.path ++ [key.last]⟩

def add (draft : Draft) (key : Key) (value : Value) : Option Draft := do
  return { draft with root := ← draft.root.addUnder draft.header key.path key.last value }

end Draft

/-- How deep brackets may nest in a value. -/
def nesting : Nat := 79

/-- Reads one header or one key with its value, up to the blanks before the end of its line. -/
def expression? (limit : Nat) (draft : Draft) : Reader Draft
  | '[' :: '[' :: rest => do
      let (key, rest) ← key? rest
      let (_, rest) ← expect ']' rest
      let (_, rest) ← expect ']' rest
      return (← draft.openElement key, rest)
  | '[' :: rest => do
      let (key, rest) ← key? rest
      let (_, rest) ← expect ']' rest
      return (← draft.openTable key, rest)
  | cs => do
      let ((key, value), rest) ← keyValue? (value? limit nesting) cs
      return (← draft.add key value, rest)

/-- Nothing before the end of the line but a comment. -/
def startsBlankLine : List Char → Bool
  | '#' :: _ => true
  | '\n' :: _ => true
  | '\r' :: _ => true
  | _ => false

/-- The lines that are left, so many at most. -/
def lines? (limit : Nat) : Nat → Draft → List Char → Option Draft
  | 0, _, _ => none
  | left + 1, draft, cs =>
      match afterBlanks cs with
      | [] => some draft
      | start => do
          let (draft, after) ←
            if startsBlankLine start then some (draft, start) else expression? limit draft start
          lines? limit left draft (← afterLine? after)

def afterByteOrderMark : List Char → List Char
  | '\uFEFF' :: rest => rest
  | cs => cs

/-- The root table of a document, which may start with a byte order mark. There are no more lines,
and no more values in brackets, than characters. -/
def read? (text : String) : Option Fields :=
  let cs := afterByteOrderMark text.toList
  let limit := cs.length + 1
  (lines? limit limit Draft.empty cs).map (·.root)

example : (read? "a = [1]\n[b]\nc.d = 'x' # y\n").isSome := by decide +kernel

example : (read? "a = 1\na = 2\n").isNone := by decide +kernel

end KeywordHarvest.Toml
