/-! A keyword list as a TypeScript constant: the declaration, one single-quoted element a line, each
with its comma, and the closing bracket on a line of its own. Nothing is escaped, since a keyword
holds no quote, backslash or line end. -/

namespace KeywordHarvest.Listing.TypeScript

def header (name : List Char) : List Char := "export const ".toList ++ name ++ " = [\n".toList

def element (keyword : List Char) : List Char := "  '".toList ++ keyword ++ "',\n".toList

def write (name : List Char) (keywords : List (List Char)) : List Char :=
  header name ++ keywords.flatMap element ++ "]\n".toList

example : String.ofList (write "KEYWORDS".toList ["select".toList, "group by".toList]) =
    "export const KEYWORDS = [\n  'select',\n  'group by',\n]\n" := by decide

end KeywordHarvest.Listing.TypeScript
