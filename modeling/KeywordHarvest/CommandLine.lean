import KeywordHarvest.CommandLine.Arguments
import KeywordHarvest.CommandLine.Usage
import KeywordHarvest.Harvest

/-! The command as a whole: what it prints, how it exits, and what it does to files. Wrong arguments
exit with 2, a run that fails with 1, one that crashes with 101. The log and then the error, if any,
go to the error output. -/

namespace KeywordHarvest.CommandLine

structure Outcome where
  exitCode : Nat
  stdout : String
  stderr : String
  deriving DecidableEq

def log (verbose : Bool) (events : List Event) : String :=
  if verbose then String.join (events.map fun event => event.line ++ "\n") else ""

def failure (log message : String) : Outcome := ⟨1, "", log ++ "Error: " ++ message ++ "\n"⟩

def Outcome.ofReport (verbose : Bool) (output : Harvest → String)
    (report : Harvest.Report Harvest) : Outcome :=
  match report.result with
  | .ok harvest => ⟨0, output harvest, log verbose report.events⟩
  | .error fault => failure (log verbose report.events) fault.message

def Outcome.ofWrong (fault : Wrong) : Outcome :=
  ⟨2, "", "error: " ++ fault.message ++ "\n\n" ++ Usage.summary ++
    "\nFor more information, try '--help'.\n"⟩

def Request.perform (request : Request) (settings : Settings) : FileTask Outcome :=
  if request.toStdout then do
    return .ofReport request.verbose Harvest.rendered (← Harvest.ofInput settings)
  else do
    return .ofReport request.verbose (fun _ => "") (← Harvest.generate settings)

def Outcome.ofUnloaded : Settings.Fault → Outcome
  | .crash report => ⟨101, "", report⟩
  | fault => failure "" ("invalid configuration: " ++ fault.message)

def Request.run (host : Host) (request : Request) : FileTask Outcome := do
  match ← Settings.ofProject host request.overrides with
  | .error fault => return .ofUnloaded fault
  | .ok settings => request.perform settings

def run (host : Host) (arguments : List Bytes) : FileTask Outcome :=
  match request arguments with
  | .ok request => request.run host
  | .error .help => return ⟨0, Usage.help, ""⟩
  | .error .version => return ⟨0, Usage.version, ""⟩
  | .error (.wrong fault) => return .ofWrong fault

end KeywordHarvest.CommandLine
