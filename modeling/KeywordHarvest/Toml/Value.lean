import KeywordHarvest.Toml.Moment
import KeywordHarvest.Decimal.Binary64

/-! Values and tables of TOML. A table remembers how it came to be, since that decides what may
still go into it: a table under a header or an inline table is defined once, one that only a
longer header implies may get its own header later, and one that dotted keys made is open to
dotted keys. -/

namespace KeywordHarvest.Toml

inductive Form
  | header
  | implied
  | dotted
  | inline
  deriving DecidableEq

/-- An array of tables under headers, `tables`, has the one that is open first, then the earlier
ones. -/
inductive Value
  | string (text : String)
  | integer (value : Int)
  | float (value : Decimal.Binary64)
  | boolean (value : Bool)
  | moment (value : Moment)
  | array (items : List Value)
  | table (form : Form) (fields : List (String × Value))
  | tables (current : List (String × Value)) (earlier : List (List (String × Value)))

abbrev Fields := List (String × Value)

namespace Fields

def put (key : String) (value : Value) : Fields → Fields
  | [] => [(key, value)]
  | (k, old) :: rest => if k = key then (k, value) :: rest else (k, old) :: put key value rest

/-- A header leads into every table but a closed one. A dotted key leads only into tables that no
header has defined. -/
def leadsInto (made : Form) : Form → Bool
  | .inline => false
  | .header => made ≠ .dotted
  | _ => true

/-- Changes the table at the end of a path, making missing ones on the way in the given form. An
array of tables leads into the one that is open. -/
def within (made : Form) (edit : Form → Fields → Option Fields) :
    List String → Form → Fields → Option Fields
  | [], form, fields => edit form fields
  | key :: path, _, fields =>
      match fields.lookup key with
      | none => do
          let inner ← within made edit path made []
          return fields ++ [(key, .table made inner)]
      | some (.table form inner) =>
          if leadsInto made form then do
            let inner ← within made edit path form inner
            return fields.put key (.table form inner)
          else none
      | some (.tables current earlier) => do
          let current ← within made edit path .header current
          return fields.put key (.tables current earlier)
      | some _ => none

/-- A new key with its value. After a dotted path the table must be one that dotted keys made. -/
def add (path : List String) (key : String) (value : Value) : Fields → Option Fields :=
  within .dotted
    (fun form fields =>
      if path ≠ [] && form ≠ .dotted then none
      else if (fields.lookup key).isSome then none
      else some (fields ++ [(key, value)]))
    path .header

/-- A table gets its header: it is new, or was only implied so far. -/
def openTable (path : List String) (key : String) : Fields → Option Fields :=
  within .implied
    (fun _ fields =>
      match fields.lookup key with
      | none => some (fields ++ [(key, .table .header [])])
      | some (.table .implied inner) => some (fields.put key (.table .header inner))
      | some _ => none)
    path .header

def openElement (path : List String) (key : String) : Fields → Option Fields :=
  within .implied
    (fun _ fields =>
      match fields.lookup key with
      | none => some (fields ++ [(key, .tables [] [])])
      | some (.tables current earlier) => some (fields.put key (.tables [] (current :: earlier)))
      | some _ => none)
    path .header

def addUnder (header path : List String) (key : String) (value : Value) :
    Fields → Option Fields :=
  within .implied (fun _ fields => fields.add path key value) header .header

end Fields

end KeywordHarvest.Toml
