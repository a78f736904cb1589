import OrderOfGrowth.FileTree.Basic

/-! # Walking a file tree

    A directory's entries are visited in the order of their names, byte by byte, and a directory's
    files before the next entry.  What cannot be listed is passed by in silence. -/

namespace OrderOfGrowth.FileTree

mutual

/-- The files of a tree that lies at a path, in the order of the walk, each with its own path. -/
def walk (path : Path) : FileTree → List (Path × Attempt)
  | file a => [(path, a)]
  | device _ => []
  | closed _ => []
  | directory entries =>
    let sorted := (walkEntries path entries).mergeSort fun a b => decide (a.1 ≤ b.1)
    sorted.flatMap (·.2)

/-- The files of every entry of a directory that lies at a path. -/
def walkEntries (path : Path) : List (Name × FileTree) → List (Name × List (Path × Attempt))
  | [] => []
  | (name, t) :: rest => (name, t.walk (path.join name)) :: walkEntries path rest

end

end OrderOfGrowth.FileTree
