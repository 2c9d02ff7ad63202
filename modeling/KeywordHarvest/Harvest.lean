import KeywordHarvest.Event
import KeywordHarvest.FileTask
import KeywordHarvest.Settings.Setting

/-! A harvest: the keywords of a grammar and the list written from them. It comes from a text at
hand or from the input file, and generating puts the list into the output file. Each of these
reports its steps and ends with a result or with the first fault: reading comes before the marker,
and writing comes last. -/

namespace KeywordHarvest

structure Harvest where
  keywords : List String
  rendered : String
  deriving DecidableEq

namespace Harvest

inductive Fault
  | marker (fault : Marker.Fault)
  | unreadable (path : Path) (fault : FileTree.Fault)
  | unwritable (path : Path) (fault : FileTree.Fault)
  deriving DecidableEq

def Fault.message : Fault → String
  | marker fault => fault.message
  | unreadable path fault => "Failed to read '" ++ path.text ++ "': " ++ fault.message
  | unwritable path fault => "Failed to write '" ++ path.text ++ "': " ++ fault.message

structure Report (α : Type) where
  events : List Event
  result : Except Fault α

def Report.after {α : Type} (events : List Event) (report : Report α) : Report α :=
  ⟨events ++ report.events, report.result⟩

def ofMarker (listing : Listing) (text : String) (marker : Marker) : Harvest :=
  ⟨marker.keywords text, listing.write (marker.keywords text)⟩

def ofText (settings : Settings) (text : String) : Report Harvest :=
  match Marker.ofText settings.marker with
  | .error fault => ⟨[], .error (.marker fault)⟩
  | .ok marker =>
      let harvest := ofMarker settings.listing text marker
      ⟨[.extracted marker.text harvest.keywords.length], .ok harvest⟩

def textOf (content : Except FileTree.Fault Bytes) : Except FileTree.Fault String := do
  match Text.decode? (← content) with
  | some text => return text
  | none => .error .notText

/-- The harvest of an input file, once it has been read. -/
def ofContent (settings : Settings) (content : Except FileTree.Fault Bytes) : Report Harvest :=
  Report.after [.reading settings.input]
    (match textOf content with
    | .error fault => ⟨[], .error (.unreadable settings.input fault)⟩
    | .ok text => ofText settings text)

def ofInput (settings : Settings) : FileTask (Report Harvest) := do
  return ofContent settings (← FileTask.readFile settings.input)

def written (path : Path) (content : Bytes) (outcome : Except FileTree.Fault Unit) : Report Unit :=
  match outcome with
  | .error fault => ⟨[], .error (.unwritable path fault)⟩
  | .ok () => ⟨[.wrote path content.length], .ok ()⟩

def writeOutput (path : Path) (text : String) : FileTask (Report Unit) := do
  let content := Text.encode text
  return written path content (← FileTask.writeFile path content)

/-- A harvest that has been made, once its list has been written. -/
def finished (output : Path) (events : List Event) (harvest : Harvest) (written : Report Unit) :
    Report Harvest :=
  Report.after events
    (match written.result with
    | .error fault => ⟨written.events, .error fault⟩
    | .ok () => ⟨written.events ++ [.finished harvest.keywords.length output], .ok harvest⟩)

def generate (settings : Settings) : FileTask (Report Harvest) := do
  let report ← ofInput settings
  match report.result with
  | .error _ => return report
  | .ok harvest =>
      return finished settings.output report.events harvest
        (← writeOutput settings.output harvest.rendered)

end Harvest

end KeywordHarvest
