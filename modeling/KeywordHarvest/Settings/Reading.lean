import KeywordHarvest.Settings.Entry

/-! Settings read from a table. What stands for a setting has to be of its kind; of several settings
with a wrong value the first one that is met is reported, and what is missing only after that. -/

namespace KeywordHarvest

inductive Mismatch
  | missing (setting : Setting)
  | nothing (setting : Setting)
  | list (setting : Setting) (origin : Option String)
  | table (setting : Setting)
  | unknownFormat (name : String)
  | notOneFormat
  deriving DecidableEq

namespace Mismatch

def expected (found : String) (setting : Setting) : String :=
  "invalid type: " ++ found ++ ", expected a string for key `" ++ setting.name ++ "`"

def message : Mismatch → String
  | missing setting => "missing field `" ++ setting.name ++ "`"
  | nothing setting => expected "unit value" setting
  | list setting none => expected "sequence" setting
  | list setting (some origin) => expected "sequence" setting ++ " in " ++ origin
  | table setting => expected "map" setting
  | unknownFormat name => "enum OutputFormat does not have variant constructor " ++ name
  | notOneFormat =>
      "value of enum OutputFormat should be represented by either string or table " ++
        "with exactly one key"

end Mismatch

def Format.ofAnyCase (name : String) : Except Mismatch Format :=
  match Format.ofName? (Text.lowerCase name) with
  | some format => .ok format
  | none => .error (.unknownFormat name)

def Table.onlyKey? : Table → Option String
  | [] => none
  | (key, _) :: others => if others.all (·.1 = key) then some key else none

namespace Entry

def text (setting : Setting) : Entry → Except Mismatch String
  | nothing => .error (.nothing setting)
  | string text => .ok text
  | scalar text => .ok text
  | list origin _ => .error (.list setting origin)
  | table _ => .error (.table setting)

def format : Entry → Except Mismatch Format
  | string name => Format.ofAnyCase name
  | table fields =>
      match Table.onlyKey? fields with
      | some name => Format.ofAnyCase name
      | none => .error .notOneFormat
  | _ => .error .notOneFormat

def check (setting : Setting) (entry : Entry) : Except Mismatch Unit :=
  match setting with
  | .format => entry.format.map fun _ => ()
  | _ => (entry.text setting).map fun _ => ()

end Entry

namespace Table

def entry (table : Table) (setting : Setting) : Except Mismatch Entry :=
  match table.lookup setting.name with
  | some entry => .ok entry
  | none => .error (.missing setting)

def text (table : Table) (setting : Setting) : Except Mismatch String := do
  (← table.entry setting).text setting

def check (table : Table) (setting : Setting) : Except Mismatch Unit :=
  match table.lookup setting.name with
  | some entry => entry.check setting
  | none => .ok ()

def settings (order : Setting → Nat) (table : Table) : Except Mismatch Settings := do
  (arrange order Setting.all).forM table.check
  let input ← table.text .input
  let output ← table.text .output
  let marker ← table.text .marker
  let listName ← table.text .listName
  let format ← (← table.entry .format).format
  return ⟨Text.encode input, Text.encode output, marker, ⟨format, listName⟩⟩

def standard : Table := Setting.all.map fun setting => (setting.name, .string setting.standard)

end Table

end KeywordHarvest
