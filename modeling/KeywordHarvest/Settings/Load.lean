import KeywordHarvest.Settings.Layer
import KeywordHarvest.Settings.Reading

/-! Settings from all their sources: the standard values, the local file of a project, further
files, one more file that the overrides may name, and the overrides themselves, each over the ones
before it. -/

namespace KeywordHarvest

structure Overrides where
  configFile : Option Path := none
  input : Option Path := none
  output : Option Path := none
  marker : Option String := none
  listName : Option String := none
  format : Option Format := none

namespace Overrides

def text (overrides : Overrides) : Setting → Option String
  | .input => overrides.input.map Path.text
  | .output => overrides.output.map Path.text
  | .marker => overrides.marker
  | .listName => overrides.listName
  | .format => overrides.format.map Format.name

def replaceOne (overrides : Overrides) (table : Table) (setting : Setting) : Table :=
  match overrides.text setting with
  | some text => table.put setting.name (.string text)
  | none => table

def replaceIn (overrides : Overrides) (table : Table) : Table :=
  Setting.all.foldl overrides.replaceOne table

end Overrides

structure Sources where
  project : Bool
  files : List Path
  overrides : Overrides

namespace Sources

def layers (sources : Sources) : List Layer :=
  (if sources.project then [⟨Layer.localFile, false⟩] else []) ++
    (sources.files ++ sources.overrides.configFile.toList).map (⟨·, true⟩)

end Sources

namespace Settings

inductive Fault
  | layer (fault : Layer.Fault)
  | mismatch (found : Mismatch)
  | crash (report : String)
  deriving DecidableEq

def Fault.message : Fault → String
  | layer fault => fault.message
  | mismatch found => found.message
  | crash report => report

variable (host : Host)

/-- Merging that crashes is the end of the run. -/
def merged (writes : List Write) (table : Table) : Except Fault Table :=
  (merge writes table).mapError fun crash => .crash (host.crashReport crash)

/-- Layers in order, from the one with this number on, up to the first one at fault. -/
def mergeAll : Nat → Table → List Layer → FileTask (Except Fault Table)
  | _, table, [] => return .ok table
  | number, table, layer :: layers => do
      match ← layer.collect host.diagnosis with
      | .error fault => return .error (.layer fault)
      | .ok own =>
          match merged host (own.writes (host.order.layer number)) table with
          | .error fault => return .error fault
          | .ok table => mergeAll (number + 1) table layers

/-- The settings that merged layers come to. All keys are merged a second time, as they stand after
the first time, before the overrides are put in. -/
def settle (overrides : Overrides) (table : Table) : Except Fault Settings := do
  let table ← merged host (table.writes host.order.merged) []
  ((overrides.replaceIn table).settings host.order.reading).mapError .mismatch

def load (sources : Sources) : FileTask (Except Fault Settings) := do
  return (← mergeAll host 0 Table.standard sources.layers).bind (settle host sources.overrides)

def ofProject (overrides : Overrides) : FileTask (Except Fault Settings) :=
  load host ⟨true, [], overrides⟩

end Settings

end KeywordHarvest
