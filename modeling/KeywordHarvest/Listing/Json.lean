/-! A keyword list as a JSON array, one element a line and indented by two spaces; the empty array
stays on one line. A string escapes the quote, the backslash and the control characters, the common
ones by letter and the rest by code point; every other character stands for itself. -/

namespace KeywordHarvest.Listing.Json

def hexDigit (value : Nat) : Char :=
  if value < 10 then Char.ofNat (value + 48) else Char.ofNat (value + 87)

def escape (c : Char) : List Char :=
  match c with
  | '"' => ['\\', '"']
  | '\\' => ['\\', '\\']
  | '\x08' => ['\\', 'b']
  | '\x0c' => ['\\', 'f']
  | '\n' => ['\\', 'n']
  | '\r' => ['\\', 'r']
  | '\t' => ['\\', 't']
  | c =>
      if c.toNat < 0x20 then
        ['\\', 'u', '0', '0', hexDigit (c.toNat / 16), hexDigit (c.toNat % 16)]
      else [c]

def quote (text : List Char) : List Char := '"' :: (text.flatMap escape ++ ['"'])

def element (keyword : List Char) : List Char := ' ' :: ' ' :: quote keyword

def array : List (List Char) → List Char
  | [] => ['[', ']']
  | first :: others =>
      '[' :: '\n' :: ([',', '\n'].intercalate ((first :: others).map element) ++ ['\n', ']'])

def write (keywords : List (List Char)) : List Char := array keywords ++ ['\n']

example : String.ofList (write []) = "[]\n" := by decide

example : String.ofList (write ["a".toList, "b\"\x1f".toList]) =
    "[\n  \"a\",\n  \"b\\\"\\u001f\"\n]\n" := by decide

end KeywordHarvest.Listing.Json
