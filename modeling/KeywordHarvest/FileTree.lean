import KeywordHarvest.FileTree.Path
import KeywordHarvest.FileTree.Fault

/-! Files, directories and symbolic links below one root, and the working directory in it. A tree is
what stands at each place, so two trees with the same content are equal. -/

namespace KeywordHarvest

/-- The names from a place up to the root, its own name first. -/
abbrev Place := List Path.Name

def Place.path (place : Place) : Path := place.reverse.flatMap (Path.slash :: ·)

/-- A path as it is from the root, where it starts in a directory. -/
def Path.under (path : Path) (cwd : Place) : Path :=
  if path.isAbsolute then path else cwd.path ++ Path.slash :: path

inductive Node
  | directory
  | file (content : Bytes) (mode : Nat)
  | link (target : Path)
  deriving DecidableEq

@[ext] structure FileTree where
  cwd : Place
  node : Place → Option Node

namespace FileTree

/-- The root is a directory in every tree. -/
def at? (tree : FileTree) : Place → Option Node
  | [] => some .directory
  | place => tree.node place

def isDirectory (tree : FileTree) (place : Place) : Bool := tree.at? place = some .directory

def set (tree : FileTree) (place : Place) (node : Node) : FileTree :=
  { tree with node := fun other => if other = place then some node else tree.node other }

def prune (tree : FileTree) (place : Place) : FileTree :=
  { tree with node := fun other => if place.isSuffixOf other then none else tree.node other }

def bare (cwd : Place) : FileTree :=
  ⟨cwd, fun place => if place.isSuffixOf cwd then some .directory else none⟩

@[simp] theorem at?_cons (tree : FileTree) (name : Path.Name) (place : Place) :
    tree.at? (name :: place) = tree.node (name :: place) := rfl

@[simp] theorem cwd_set (tree : FileTree) (place : Place) (node : Node) :
    (tree.set place node).cwd = tree.cwd := rfl

theorem node_set (tree : FileTree) (place other : Place) (node : Node) :
    (tree.set place node).node other = if other = place then some node else tree.node other := rfl

theorem at?_set_of_ne (tree : FileTree) {place other : Place} (node : Node)
    (apart : other ≠ place) : (tree.set place node).at? other = tree.at? other := by
  cases other with
  | nil => rfl
  | cons name rest => simp [node_set, apart]

theorem set_set (tree : FileTree) (place : Place) (first second : Node) :
    (tree.set place first).set place second = tree.set place second := by
  ext other found
  · rfl
  · by_cases here : other = place <;> simp [node_set, here]

theorem set_comm (tree : FileTree) {first second : Place} (one another : Node)
    (apart : first ≠ second) :
    (tree.set first one).set second another = (tree.set second another).set first one := by
  ext other found
  · rfl
  · by_cases here : other = first <;> by_cases there : other = second <;>
      simp_all [node_set]

end FileTree

end KeywordHarvest
