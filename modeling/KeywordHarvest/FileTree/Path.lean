import KeywordHarvest.Text.Utf8

/-! Paths as byte strings. Slashes divide a path into parts; empty parts lead nowhere, but a slash
in front starts at the root, and one at the end asks for a directory. -/

namespace KeywordHarvest

abbrev Path := Bytes

namespace Path

abbrev Name := Bytes

def slash : UInt8 := 0x2F

def dot : Name := [0x2E]

def dotDot : Name := [0x2E, 0x2E]

/-- The parts between slashes, of which there is at least one. -/
def split : Path → Name × List Name
  | [] => ([], [])
  | byte :: path =>
      let (first, others) := split path
      if byte = slash then ([], first :: others) else (byte :: first, others)

def parts (path : Path) : List Name := (split path).1 :: (split path).2

def join : List Name → Path
  | [] => []
  | [part] => part
  | part :: others => part ++ slash :: join others

def names (path : Path) : List Name := path.parts.filter (· ≠ [])

def isAbsolute (path : Path) : Bool := path.head? = some slash

def endsInSlash (path : Path) : Bool := path.getLast? = some slash

/-- The path as it is shown. -/
def text (path : Path) : String := Text.lenient path

/-- The names from one place to another, where both are given by their names from the root. -/
def way : List Name → List Name → List Name
  | first :: base, name :: names =>
      if first = name then way base names
      else List.replicate (base.length + 1) dotDot ++ name :: names
  | base, names => List.replicate base.length dotDot ++ names

example : names (Text.encode "//a//b/") = [Text.encode "a", Text.encode "b"] := by decide

end Path

end KeywordHarvest
