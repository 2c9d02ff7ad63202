import KeywordHarvest.FileTree.Path
import KeywordHarvest.Text.Quoted

/-! What a run reports of its steps, each as one line of a log. -/

namespace KeywordHarvest

inductive Event
  | reading (path : Path)
  | extracted (marker : String) (count : Nat)
  | wrote (path : Path) (bytes : Nat)
  | finished (count : Nat) (path : Path)
  deriving DecidableEq

def Event.line : Event → String
  | reading path => "DEBUG reading grammar path=" ++ path.text
  | extracted marker count =>
      "DEBUG extracted keywords marker=" ++ Text.quoted marker ++ " count=" ++ toString count
  | wrote path bytes => "DEBUG wrote output path=" ++ path.text ++ " bytes=" ++ toString bytes
  | finished count path =>
      " INFO wrote keyword list count=" ++ toString count ++ " path=" ++ path.text

end KeywordHarvest
