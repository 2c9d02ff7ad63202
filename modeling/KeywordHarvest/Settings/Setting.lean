import KeywordHarvest.FileTree.Path
import KeywordHarvest.Listing
import KeywordHarvest.Marker

/-! The five settings of a run: the grammar to read, the file to write, the marker, and the name and
format of the list. Each one has a name in configuration files and a standard value. -/

namespace KeywordHarvest

inductive Setting
  | input
  | output
  | marker
  | listName
  | format
  deriving DecidableEq

namespace Setting

def name : Setting → String
  | input => "input"
  | output => "output"
  | marker => "marker"
  | listName => "list_name"
  | format => "format"

def ofName? : String → Option Setting
  | "input" => some input
  | "output" => some output
  | "marker" => some marker
  | "list_name" => some listName
  | "format" => some format
  | _ => none

def all : List Setting := [input, output, marker, listName, format]

def standard : Setting → String
  | input => "tree-sitter-sql/grammar.js"
  | output => "src/sql.ts"
  | marker => "kw"
  | listName => "KEYWORDS"
  | format => "typescript"

@[simp] theorem ofName?_name (setting : Setting) : ofName? setting.name = some setting := by
  cases setting <;> rfl

end Setting

structure Settings where
  input : Path
  output : Path
  marker : String
  listing : Listing
  deriving DecidableEq

namespace Settings

def standard : Settings :=
  ⟨Text.encode (Setting.standard .input), Text.encode (Setting.standard .output),
    Setting.standard .marker, Listing.standard⟩

end Settings

end KeywordHarvest
