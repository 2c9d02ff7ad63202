import KeywordHarvest.Call

/-! The token that precedes each keyword call. It has at least one character, and no more bytes
than a search pattern built from it may have. -/

namespace KeywordHarvest

structure Marker where
  text : String
  nonempty : text ≠ ""
  fits : text.utf8ByteSize ≤ 326106

namespace Marker

inductive Fault
  | empty
  | tooLong
  deriving DecidableEq

def Fault.message : Fault → String
  | empty => "Marker token must not be empty"
  | tooLong =>
      "Invalid marker pattern: Compiled regex exceeds size limit of 10485760 bytes."

def ofText (text : String) : Except Fault Marker :=
  if empty : text = "" then .error .empty
  else if fits : text.utf8ByteSize ≤ 326106 then .ok ⟨text, empty, fits⟩
  else .error .tooLong

def standard : Marker := ⟨"kw", by decide, by decide⟩

def keywords (marker : Marker) (text : String) : List String :=
  (Call.keywords (Call.opener marker.text.toList) text.toList).map String.ofList

theorem ofText_text (marker : Marker) : ofText marker.text = .ok marker := by
  simp [ofText, marker.nonempty, marker.fits]

end Marker

end KeywordHarvest
