import KeywordHarvest.Decimal.Shortest
import KeywordHarvest.Settings.Address
import KeywordHarvest.Settings.Host
import KeywordHarvest.Toml.Document

/-! Tables of settings as configuration layers leave them. Merging a table comes down to a series of
writes, each to one address: a value is put there, or a table is made where nothing is. What a write
finds on its way that is no table, or no list, gives way to one. -/

namespace KeywordHarvest

open Address (Step)

/-- Numbers and booleans are kept as the text they are taken for. A list that stands in a file knows
that file. -/
inductive Entry
  | nothing
  | string (text : String)
  | scalar (text : String)
  | list (origin : Option String) (items : List Entry)
  | table (fields : List (String × Entry))

abbrev Table := List (String × Entry)

namespace Table

def put (name : String) (entry : Entry) : Table → Table
  | [] => [(name, entry)]
  | (key, old) :: rest =>
      if key = name then (key, entry) :: rest else (key, old) :: put name entry rest

end Table

namespace Entry

mutual

def ofValue (origin : String) : Toml.Value → Entry
  | .string text => .string text
  | .moment moment => .string moment.text
  | .integer value => .scalar (toString value)
  | .float value => .scalar value.text
  | .boolean value => .scalar (if value then "true" else "false")
  | .array items => .list (some origin) (ofValues origin items)
  | .table _ fields => .table (ofFields origin fields)
  | .tables current earlier =>
      .list (some origin) (ofTables origin [.table (ofFields origin current)] earlier)

def ofValues (origin : String) : List Toml.Value → List Entry
  | [] => []
  | value :: values => ofValue origin value :: ofValues origin values

def ofFields (origin : String) : List (String × Toml.Value) → Table
  | [] => []
  | (key, value) :: fields => (key, ofValue origin value) :: ofFields origin fields

/-- The earlier tables of an array of tables come last first. -/
def ofTables (origin : String) (later : List Entry) :
    List (List (String × Toml.Value)) → List Entry
  | [] => later
  | fields :: earlier => ofTables origin (.table (ofFields origin fields) :: later) earlier

end

def fields : Entry → Table
  | table fields => fields
  | _ => []

def items : Entry → List Entry
  | list _ items => items
  | _ => []

def listOrigin : Entry → Option String
  | list origin _ => origin
  | _ => none

end Entry

inductive Action
  | put (entry : Entry)
  | touch

def Action.apply : Action → Option Entry → Entry
  | put entry, _ => entry
  | touch, old => old.getD (.table [])

/-- A negative index counts from the end, and there is no way before the first element. -/
def position (index : Int) (length : Nat) : Except Crash Nat :=
  if 0 ≤ index then .ok index.toNat
  else if index.natAbs ≤ length then .ok (length - index.natAbs)
  else .error ⟨index, length⟩

/-- The items of a list, with nothing in the places up to a position. -/
def padded (position : Nat) (items : List Entry) : List Entry :=
  items ++ List.replicate (position + 1 - items.length) .nothing

def alter (action : Action) : List Step → Option Entry → Except Crash Entry
  | [], old => .ok (action.apply old)
  | .part name :: steps, old => do
      let fields := (old.map Entry.fields).getD []
      return .table (fields.put name (← alter action steps (fields.lookup name)))
  | .element index :: steps, old => do
      let items := (old.map Entry.items).getD []
      let position ← position index items.length
      let items := padded position items
      return .list (old.bind Entry.listOrigin)
        (items.set position (← alter action steps items[position]?))

structure Write where
  address : Address
  action : Action

def Write.apply (write : Write) (table : Table) : Except Crash Table := do
  let name := write.address.name
  return table.put name (← alter write.action write.address.steps (table.lookup name))

def merge (writes : List Write) (table : Table) : Except Crash Table :=
  writes.foldlM (fun table write => write.apply table) table

namespace Entry

mutual

/-- A table is written part by part, in the order that its keys come in. -/
def writes (rank : Rank) (keys : List String) (address : Address) : Entry → List Write
  | .table fields =>
      ⟨address, .touch⟩ ::
        (arrange (rank keys ·.1) (partWrites rank keys address fields)).flatMap (·.2)
  | entry => [⟨address, .put entry⟩]

def partWrites (rank : Rank) (keys : List String) (address : Address) :
    List (String × Entry) → List (String × List Write)
  | [] => []
  | (key, entry) :: fields =>
      (key, writes rank (keys ++ [key]) (address.descend (Text.lowerCase key)) entry) ::
        partWrites rank keys address fields

end

end Entry

namespace Table

/-- An element of a list takes any value as it is. -/
def fieldWrites (rank : Rank) (field : String × Entry) : List Write :=
  if (Address.targetOf field.1).endsInElement then [⟨Address.targetOf field.1, .put field.2⟩]
  else field.2.writes rank [field.1] (Address.targetOf field.1)

def writes (rank : Rank) (table : Table) : List Write :=
  (arrange (rank [] ·.1) table).flatMap (fieldWrites rank)

end Table

end KeywordHarvest
