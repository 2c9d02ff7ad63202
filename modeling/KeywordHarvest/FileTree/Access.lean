import KeywordHarvest.FileTree.Resolve

/-! Reading and writing files by path. Writing replaces the content of an existing file and keeps
its mode, or makes a file in a directory that is already there. -/

namespace KeywordHarvest.FileTree

def newMode : Nat := 0o644

def contentAt (tree : FileTree) (place : Place) : Except Fault Bytes :=
  match tree.at? place with
  | some (.file content _) => .ok content
  | some .directory => .error .isDirectory
  | _ => .error .missing

def read (tree : FileTree) (path : Path) : Except Fault Bytes := do
  tree.contentAt (← tree.resolve .opening path)

def putAt (tree : FileTree) (content : Bytes) (place : Place) : Except Fault FileTree :=
  match tree.at? place with
  | none => .ok (tree.set place (.file content newMode))
  | some (.file _ mode) => .ok (tree.set place (.file content mode))
  | some _ => .error .isDirectory

def write (tree : FileTree) (path : Path) (content : Bytes) : Except Fault FileTree := do
  tree.putAt content (← tree.resolve .creating path)

end KeywordHarvest.FileTree
