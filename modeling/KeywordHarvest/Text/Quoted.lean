import KeywordHarvest.Text.Printable

/-! Text in double quotes with everything that does not show as itself escaped: the quote and the
backslash, the common controls by letter, all else by code point. -/

namespace KeywordHarvest.Text

def codePointEscape (c : Char) : List Char :=
  '\\' :: 'u' :: '\x7b' :: (Nat.toDigits 16 c.toNat ++ ['\x7d'])

def quotedChar (c : Char) : List Char :=
  match c with
  | '\x00' => ['\\', '0']
  | '\t' => ['\\', 't']
  | '\n' => ['\\', 'n']
  | '\r' => ['\\', 'r']
  | '"' => ['\\', '"']
  | '\\' => ['\\', '\\']
  | c => if isPrintable c then [c] else codePointEscape c

def quoted (text : String) : String :=
  String.ofList ('"' :: (text.toList.flatMap quotedChar ++ ['"']))

example : quoted "$.kw" = "\"$.kw\"" := by decide +kernel

example : quoted "a\"\u0301\n" = "\"a\\\"\\u\x7b301\x7d\\n\"" := by decide +kernel

end KeywordHarvest.Text
