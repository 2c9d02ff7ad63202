import KeywordHarvest.CommandLine

/-! The command on the files of the system: its file work is carried out step by step, and its
outcome is printed. -/

namespace KeywordHarvest.Main

def fault (code : UInt32) (details : String) : FileTree.Fault :=
  match code with
  | 2 => .missing
  | 17 => .present
  | 20 => .notDirectory
  | 21 => .isDirectory
  | 36 => .nameTooLong
  | 40 => .tooManyLinks
  | _ => .other (details ++ " (os error " ++ toString code ++ ")")

def faultOf : IO.Error → FileTree.Fault
  | .alreadyExists _ code details => fault code details
  | .inappropriateType _ code details => fault code details
  | .interrupted _ code details => fault code details
  | .invalidArgument _ code details => fault code details
  | .noFileOrDirectory _ code details => fault code details
  | .noSuchThing _ code details => fault code details
  | .permissionDenied _ code details => fault code details
  | .resourceExhausted _ code details => fault code details
  | .hardwareFault code details => fault code details
  | .illegalOperation code details => fault code details
  | .otherError code details => fault code details
  | .protocolError code details => fault code details
  | .resourceBusy code details => fault code details
  | .resourceVanished code details => fault code details
  | .timeExpired code details => fault code details
  | .unsatisfiedConstraints code details => fault code details
  | .unsupportedOperation code details => fault code details
  | error => .other (toString error)

/-- A path that holds a zero byte never reaches the system. -/
def attempt {α : Type} (path : Path) (action : String → IO α) : IO (Except FileTree.Fault α) :=
  if 0 ∈ path then return .error .nulInPath
  else try return .ok (← action path.text) catch error => return .error (faultOf error)

def place : IO Place := do
  return (Path.names (Text.encode (← IO.currentDir).toString)).reverse

def perform {α : Type} : FileTask α → IO α
  | .done result => return result
  | .locate next => do perform (next (← place))
  | .read path next => do
      let content ← attempt path fun name => IO.FS.withFile name .read (·.readBinToEnd)
      perform (next (content.map (·.toList)))
  | .write path content next => do
      perform (next (← attempt path fun name => IO.FS.writeBinFile name ⟨content.toArray⟩))

end KeywordHarvest.Main

def main (arguments : List String) : IO UInt32 := do
  let outcome ← KeywordHarvest.Main.perform
    (KeywordHarvest.CommandLine.run .plain (arguments.map KeywordHarvest.Text.encode))
  IO.print outcome.stdout
  IO.eprint outcome.stderr
  return outcome.exitCode.toUInt32
