import OrderOfGrowth.FileTree.Basic

/-! # Changing a file tree -/

namespace OrderOfGrowth

namespace FileTree

/-- The entries with the one of the given name replaced, or added, or removed. -/
def setEntry (entries : List (Name × FileTree)) (name : Name) (t : Option FileTree) :
    List (Name × FileTree) :=
  match t with
  | none => entries.filter (·.1 != name)
  | some t =>
    if (child? entries name).isSome then entries.map fun e => if e.1 == name then (name, t) else e
    else entries ++ [(name, t)]

/-- The tree with what is reached by a row of names replaced, or added, or removed.  All but the last
    name have to lead to directories; otherwise nothing changes. -/
def set (t : FileTree) (names : List Name) (new : Option FileTree) : FileTree :=
  match names with
  | [] => new.getD t
  | [name] =>
    match t with
    | directory entries => directory (setEntry entries name new)
    | t => t
  | name :: names =>
    match t with
    | directory entries =>
      match child? entries name with
      | some child => directory (setEntry entries name (some (child.set names new)))
      | none => directory entries
    | t => t

end FileTree

namespace FileSystem

/-- The place of the directory that a path's last component is looked up in, that component, and
    whether slashes follow it. -/
def parent (fs : FileSystem) (path : Path) : Except IoError (List Name × Name × Bool) := do
  let (place, components) := fs.start path
  let names := (components.reverse.dropWhile List.isEmpty).reverse
  match names.getLast? with
  | none => return (place, [], true)
  | some last =>
    let place ← names.dropLast.foldlM fs.step place
    return (place, last, names.length < components.length)

/-- Writes a file, which need not exist; its directory has to.  A file that cannot be read cannot be
    written. -/
def save (fs : FileSystem) (path : Path) (c : Contents) : Except IoError FileSystem := do
  if path.isEmpty then throw .notFound
  if fs.longestPath < path.length then throw .nameTooLong
  let (place, last, slashed) ← fs.parent path
  match fs.root.get? place with
  | some (.directory entries) =>
    if slashed ∨ last = [] ∨ last = [dot] ∨ last = [dot, dot] then throw .isDirectory
    match FileTree.child? entries last with
    | some (.directory _) => throw .isDirectory
    | some (.closed _) => throw .isDirectory
    | some (.file (.error e)) => throw e
    | some (.device _) => return fs
    | _ => return { fs with root := fs.root.set (place ++ [last]) (some (.file (.ok c))) }
  | some (.closed e) => throw e
  | _ => throw .notDirectory

/-- Follows one component, and makes a directory of that name if there is none. -/
def stepOrMake (state : FileSystem × List Name) (component : Name) :
    Except IoError (FileSystem × List Name) :=
  let (fs, place) := state
  match fs.step place component with
  | .ok place => .ok (fs, place)
  | .error .notFound =>
    let place := place ++ [component]
    .ok ({ fs with root := fs.root.set place (some (.directory [])) }, place)
  | .error e => .error e

/-- Makes a directory and all directories that lead to it. -/
def makeDirectory (fs : FileSystem) (path : Path) : Except IoError FileSystem := do
  let (place, components) := fs.start path
  let (fs, _) ← components.foldlM stepOrMake (fs, place)
  return fs

/-- Writes a file, and makes the directories that lead to it. -/
def saveMakingParents (fs : FileSystem) (path : Path) (c : Contents) :
    Except IoError FileSystem := do
  let (place, components) := fs.start path
  let (fs, _) ← components.dropLast.foldlM stepOrMake (fs, place)
  fs.save path c

/-- Removes what the path leads to, if it leads anywhere. -/
def remove (fs : FileSystem) (path : Path) : FileSystem :=
  match fs.locate path with
  | .ok place => { fs with root := fs.root.set place none }
  | .error _ => fs

end FileSystem

end OrderOfGrowth
