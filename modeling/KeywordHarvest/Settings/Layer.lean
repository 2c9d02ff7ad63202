import KeywordHarvest.FileTask
import KeywordHarvest.Settings.Entry

/-! Configuration files as layers. A file that is not there under its own name is looked for once
more with `.toml` after it. A required layer has to be found and to be text; an optional one is
passed over otherwise; either kind has to be well-formed if it is text. -/

namespace KeywordHarvest

structure Layer where
  path : Path
  required : Bool

namespace Layer

def localFile : Path := Text.encode "kwgen.toml"

inductive Fault
  | notFound (path : Path)
  | notText
  | malformed (origin diagnosis : String)
  deriving DecidableEq

def Fault.message : Fault → String
  | notFound path => "configuration file \"" ++ path.text ++ "\" not found"
  | notText => FileTree.Fault.notText.message
  | malformed origin diagnosis => diagnosis ++ " in " ++ origin

def ending : Path.Name := Text.encode ".toml"

/-- The path cut after its last name, with `.toml` added to that name. A path without names leads to
the working directory, whose own name is taken then. -/
def alternative? (cwd : Place) (path : Path) : Option Path :=
  match path.parts.reverse.dropWhile fun part => part = [] || part = Path.dot with
  | [] => if path.isAbsolute || cwd = [] then none else some (cwd.path ++ ending)
  | name :: above =>
      if name = Path.dotDot then none else some (Path.join (above.reverse ++ [name ++ ending]))

def lookups (cwd : Place) (path : Path) : List Path :=
  (path :: (alternative? cwd path).toList).filter fun name =>
    (name.under cwd).length < FileTree.pathLimit

/-- How errors name a file: by the way to it from the working directory. -/
def origin (cwd : Place) (path : Path) : String :=
  Path.text (Path.join
    (Path.way cwd.reverse ((path.under cwd).names.filter (· ≠ Path.dot))))

def firstFile : List Path → FileTask (Option (Path × Bytes))
  | [] => return none
  | path :: paths => do
      match ← FileTask.readFile path with
      | .ok content => return some (path, content)
      | .error _ => firstFile paths

def refuse (layer : Layer) (fault : Fault) : Except Fault Table :=
  if layer.required then .error fault else .ok []

def tableOf (layer : Layer) (diagnosis : String → String) (cwd : Place) :
    Option (Path × Bytes) → Except Fault Table
  | none => layer.refuse (.notFound layer.path)
  | some (path, content) =>
      match Text.decode? content with
      | none => layer.refuse .notText
      | some text =>
          match Toml.read? text with
          | none => .error (.malformed (origin cwd path) (diagnosis text))
          | some fields => .ok (Entry.ofFields (origin cwd path) fields)

def collect (layer : Layer) (diagnosis : String → String) : FileTask (Except Fault Table) := do
  let cwd ← FileTask.workingDirectory
  return layer.tableOf diagnosis cwd (← firstFile (lookups cwd layer.path))

example : alternative? [] (Text.encode "a/conf/.") = some (Text.encode "a/conf.toml") := by decide

example : alternative? [Text.encode "b", Text.encode "a"] (Text.encode "./") =
    some (Text.encode "/a/b.toml") := by
  decide

example : origin [Text.encode "b", Text.encode "a"] (Text.encode "/a/c/./d") = "../c/d" := by
  decide

end Layer

end KeywordHarvest
