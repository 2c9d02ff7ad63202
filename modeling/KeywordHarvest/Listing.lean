import KeywordHarvest.Listing.TypeScript
import KeywordHarvest.Listing.Json

/-! How a keyword list is written out: the format, and the name that a TypeScript constant takes. -/

namespace KeywordHarvest

inductive Format
  | typeScript
  | json
  deriving DecidableEq

namespace Format

def name : Format → String
  | typeScript => "typescript"
  | json => "json"

def ofName? : String → Option Format
  | "typescript" => some typeScript
  | "ts" => some typeScript
  | "json" => some json
  | _ => none

def unknown (name : String) : String :=
  "Unknown output format '" ++ name ++ "' (expected 'typescript' or 'json')"

@[simp] theorem ofName?_name (format : Format) : ofName? format.name = some format := by
  cases format <;> rfl

end Format

structure Listing where
  format : Format
  name : String
  deriving DecidableEq

namespace Listing

def standard : Listing := ⟨.typeScript, "KEYWORDS"⟩

def chars (listing : Listing) (keywords : List (List Char)) : List Char :=
  match listing.format with
  | .typeScript => TypeScript.write listing.name.toList keywords
  | .json => Json.write keywords

def write (listing : Listing) (keywords : List String) : String :=
  String.ofList (listing.chars (keywords.map String.toList))

@[simp] theorem toList_write (listing : Listing) (keywords : List String) :
    (listing.write keywords).toList = listing.chars (keywords.map String.toList) := by
  simp [write]

end Listing

end KeywordHarvest
