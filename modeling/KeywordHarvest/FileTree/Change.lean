import KeywordHarvest.FileTree.Access

/-! What else is done to a tree from outside: making directories and links, taking entries away,
changing modes, and looking at an entry without following it. -/

namespace KeywordHarvest.FileTree

def directoryOf (tree : FileTree) (path : Path) : Except Fault (Place × Path.Name) := do
  check path
  match path.names.reverse with
  | [] => .error .present
  | name :: above =>
      let place ← tree.walk .opening linkLimit true (tree.start path) above.reverse
      if tree.isDirectory place then return (place, name) else .error .missing

def vacancy (tree : FileTree) (path : Path) : Except Fault Place := do
  let (place, name) ← tree.directoryOf path
  if name = Path.dot || name = Path.dotDot then .error .present
  else if 255 < name.length then .error .nameTooLong
  else if (tree.at? (name :: place)).isSome then .error .present
  else return name :: place

def makeDirectory (tree : FileTree) (path : Path) : Except Fault FileTree := do
  return tree.set (← tree.vacancy path) .directory

def leadsToDirectory (tree : FileTree) (path : Path) : Bool :=
  match tree.resolve .opening path with
  | .ok place => tree.isDirectory place
  | .error _ => false

/-- What comes above a path, nearest first, single dots left out. -/
def above (path : Path) : List Path :=
  let parts := path.parts.head?.toList ++
    path.parts.tail.filter fun part => part ≠ [] && part ≠ Path.dot
  ((List.range' 1 (parts.length - 1)).reverse.map fun count => Path.join (parts.take count)).filter
    (· ≠ [])

/-- A directory that is there already is fine. -/
def settled (tree : FileTree) (path : Path) (made : Except Fault FileTree) :
    FileTree × Except Fault Unit :=
  match made with
  | .ok tree => (tree, .ok ())
  | .error fault => (tree, if tree.leadsToDirectory path then .ok () else .error fault)

/-- Makes the first of the paths as a directory, and the others above it where they are missing.
What was made before a fault stays. -/
def makeEach (tree : FileTree) : List Path → FileTree × Except Fault Unit
  | [] => (tree, .ok ())
  | path :: others =>
      match tree.makeDirectory path with
      | .error .missing =>
          match makeEach tree others with
          | (tree, .ok ()) => tree.settled path (tree.makeDirectory path)
          | (tree, .error fault) => (tree, .error fault)
      | made => tree.settled path made

def makeDirectories (tree : FileTree) (path : Path) : FileTree × Except Fault Unit :=
  if path = [] then (tree, .ok ()) else tree.makeEach (path :: above path)

/-- Writes a file whose directories are made first. -/
def plant (tree : FileTree) (path : Path) (content : Bytes) : Except Fault FileTree := do
  (tree.makeDirectories (Path.join path.parts.dropLast)).1.write path content

def remove (tree : FileTree) (path : Path) : Except Fault FileTree := do
  let place ← tree.resolve .entry path
  if (tree.at? place).isSome then return tree.prune place else .error .missing

def makeLink (tree : FileTree) (path target : Path) : Except Fault FileTree := do
  if 0 ∈ path then .error .nulInPath
  check target
  return tree.set (← tree.vacancy path) (.link target)

/-- Only files have a mode here. -/
def setMode (tree : FileTree) (path : Path) (mode : Nat) : Except Fault FileTree := do
  let place ← tree.resolve .opening path
  match tree.at? place with
  | none => .error .missing
  | some (.file content _) => return tree.set place (.file content mode)
  | some _ => return tree

/-- What a path names, its last link not followed. -/
def entry? (tree : FileTree) (path : Path) : Option Node :=
  match tree.resolve .entry path with
  | .ok place => tree.at? place
  | .error _ => none

example : above (Text.encode "a//b/./c") = [Text.encode "a/b", Text.encode "a"] := by decide

end KeywordHarvest.FileTree
