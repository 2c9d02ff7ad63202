import KeywordHarvest.FileTree.Access

/-! Work on files: reading and writing by path, one step after another, each step free to depend on
what the ones before it gave. What a piece of work does to a file tree is a function of the tree;
the same work can be carried out on the files of a system. -/

namespace KeywordHarvest

open FileTree (Fault)

inductive FileTask (α : Type)
  | done (result : α)
  | locate (next : Place → FileTask α)
  | read (path : Path) (next : Except Fault Bytes → FileTask α)
  | write (path : Path) (content : Bytes) (next : Except Fault Unit → FileTask α)

namespace FileTask

def bind {α β : Type} : FileTask α → (α → FileTask β) → FileTask β
  | done result, after => after result
  | locate next, after => locate fun cwd => (next cwd).bind after
  | read path next, after => read path fun answer => (next answer).bind after
  | write path content next, after =>
      write path content fun answer => (next answer).bind after

instance : Monad FileTask where
  pure := done
  bind := bind

def workingDirectory : FileTask Place := locate done

def readFile (path : Path) : FileTask (Except Fault Bytes) := read path done

def writeFile (path : Path) (content : Bytes) : FileTask (Except Fault Unit) :=
  write path content done

def run {α : Type} : FileTask α → FileTree → α × FileTree
  | done result, tree => (result, tree)
  | locate next, tree => (next tree.cwd).run tree
  | read path next, tree => (next (tree.read path)).run tree
  | write path content next, tree =>
      match tree.write path content with
      | .ok changed => (next (.ok ())).run changed
      | .error fault => (next (.error fault)).run tree

@[simp] theorem run_pure {α : Type} (tree : FileTree) (result : α) :
    (pure result : FileTask α).run tree = (result, tree) := rfl

@[simp] theorem run_workingDirectory (tree : FileTree) :
    workingDirectory.run tree = (tree.cwd, tree) := rfl

@[simp] theorem run_readFile (tree : FileTree) (path : Path) :
    (readFile path).run tree = (tree.read path, tree) := rfl

theorem run_writeFile (tree : FileTree) (path : Path) (content : Bytes) :
    (writeFile path content).run tree =
      match tree.write path content with
      | .ok changed => (.ok (), changed)
      | .error fault => (.error fault, tree) := by
  simp only [writeFile, run]

@[simp] theorem run_bind {α β : Type} (tree : FileTree) (task : FileTask α)
    (next : α → FileTask β) :
    (task >>= next).run tree = (next (task.run tree).1).run (task.run tree).2 := by
  change (task.bind next).run tree = _
  induction task generalizing tree with
  | done result => rfl
  | locate after ih => exact ih _ tree
  | read path after ih => exact ih _ tree
  | write path content after ih =>
      simp only [bind, run]
      split <;> exact ih _ _

end FileTask

end KeywordHarvest
