import KeywordHarvest.FileTree

/-! Where a path leads. Names are followed one by one from the root or the working directory, a
link on the way is replaced by the names of its target, and what may stand at the end depends on
what the path is for. -/

namespace KeywordHarvest.FileTree

/-- An existing thing is opened, a file is opened or made, or an entry is meant as it stands, so
that a link at the end is not followed. -/
inductive Aim
  | opening
  | creating
  | entry
  deriving DecidableEq

/-- Where the names lead from a directory. A link that has to be followed is handed on as the
directory it stands in, its target, and the names after it. -/
def along (tree : FileTree) (aim : Aim) (slash : Bool)
    (follow : Place → Path → List Path.Name → Except Fault Place) :
    Place → List Path.Name → Except Fault Place
  | place, [] => .ok place
  | place, name :: names =>
      if name = Path.dot then along tree aim slash follow place names
      else if name = Path.dotDot then
        if tree.isDirectory place.tail then along tree aim slash follow place.tail names
        else .error .missing
      else if names = [] && aim = .creating && slash then .error .isDirectory
      else if 255 < name.length then .error .nameTooLong
      else
        match tree.node (name :: place) with
        | none => if names = [] then .ok (name :: place) else .error .missing
        | some .directory => along tree aim slash follow (name :: place) names
        | some (.file _ _) =>
            if names = [] && !slash then .ok (name :: place) else .error .notDirectory
        | some (.link target) =>
            if names = [] && aim = .entry && !slash then .ok (name :: place)
            else follow place target names

/-- As `along`, with so many links followed at most. The slash at the end of a link's target counts
where the link is the last name. -/
def walk (tree : FileTree) (aim : Aim) : Nat → Bool → Place → List Path.Name → Except Fault Place
  | 0, slash => tree.along aim slash fun _ _ _ => .error .tooManyLinks
  | links + 1, slash =>
      tree.along aim slash fun place target names =>
        walk tree aim links (slash || names = [] && target.endsInSlash)
          (if target.isAbsolute then [] else place) (target.names ++ names)

def linkLimit : Nat := 40

def pathLimit : Nat := 4096

def start (tree : FileTree) (path : Path) : Place := if path.isAbsolute then [] else tree.cwd

/-- What the system asks of a path before it looks anything up. -/
def check (path : Path) : Except Fault Unit :=
  if 0 ∈ path then .error .nulInPath
  else if path = [] then .error .missing
  else if pathLimit ≤ path.length then .error .nameTooLong
  else .ok ()

def resolve (tree : FileTree) (aim : Aim) (path : Path) : Except Fault Place := do
  check path
  if tree.isDirectory (tree.start path) then
    tree.walk aim linkLimit path.endsInSlash (tree.start path) path.names
  else .error .missing

end KeywordHarvest.FileTree
