import OrderOfGrowth.FileTree.Path

/-! # File trees — files and directories, and where a path leads

    A file tree is what a program comes to see of one, so it holds what comes of reading a file, be
    it contents or an error, and a directory that cannot be listed holds nothing.

    A path is followed component by component from the root or the working directory.  Every
    component, an empty one after a slash included, asks for a directory to be looked up in. -/

namespace OrderOfGrowth

/-- The bytes of a file. -/
abbrev Contents := ByteArray

namespace Contents

/-- The text of a file, if it is UTF-8. -/
def text? (c : Contents) : Option Text := (String.fromUTF8? c).map String.toList

/-- The contents of a file that holds a text. -/
def ofText (t : Text) : Contents := (String.ofList t).toUTF8

end Contents

/-- Why a file cannot be read or written. -/
inductive IoError where
  | notFound
  | notDirectory
  | isDirectory
  | denied
  | nameTooLong
  | notText
  /-- Any other error, in the words of the system. -/
  | other (message : Text)
deriving DecidableEq

/-- The wording of an error of the file system. -/
def IoError.message : IoError → Text
  | .notFound => "No such file or directory (os error 2)".toList
  | .notDirectory => "Not a directory (os error 20)".toList
  | .isDirectory => "Is a directory (os error 21)".toList
  | .denied => "Permission denied (os error 13)".toList
  | .nameTooLong => "File name too long (os error 36)".toList
  | .notText => "stream did not contain valid UTF-8".toList
  | .other message => message

/-- What comes of reading a file. -/
abbrev Attempt := Except IoError Contents

/-- The text that was read. -/
def Attempt.text (a : Attempt) : Except IoError Text :=
  match a with
  | .error e => .error e
  | .ok c =>
    match c.text? with
    | some t => .ok t
    | none => .error .notText

/-- What a path can lead to. -/
inductive FileTree where
  | file (attempt : Attempt)
  /-- Neither a file nor a directory, but it may be read. -/
  | device (attempt : Attempt)
  | directory (entries : List (Name × FileTree))
  /-- A directory that cannot be listed. -/
  | closed (e : IoError)

namespace FileTree

/-- The entry of a directory with the given name. -/
def child? (entries : List (Name × FileTree)) (name : Name) : Option FileTree :=
  (entries.find? (·.1 == name)).map (·.2)

/-- What is reached by a row of names. -/
def get? (t : FileTree) : List Name → Option FileTree
  | [] => some t
  | name :: names =>
    match t with
    | directory entries => (child? entries name).bind (·.get? names)
    | _ => none

/-- What comes of reading what a path leads to. -/
def attempt : FileTree → Attempt
  | file a => a
  | device a => a
  | directory _ => .error .isDirectory
  | closed e => .error e

mutual

/-- What can be reached of a tree that lies at a path, in a system that takes no path of more than so
    many bytes. -/
def within (longest : Nat) (path : Path) : FileTree → FileTree
  | file a => file (if path.length ≤ longest then a else .error .nameTooLong)
  | device a => device (if path.length ≤ longest then a else .error .nameTooLong)
  | directory entries =>
    if path.length ≤ longest then directory (entriesWithin longest path entries)
    else closed .nameTooLong
  | closed e => closed e

/-- What can be reached of the entries of a directory. -/
def entriesWithin (longest : Nat) (path : Path) : List (Name × FileTree) → List (Name × FileTree)
  | [] => []
  | (name, t) :: rest =>
    (name, t.within longest (path.join name)) :: entriesWithin longest path rest

end

end FileTree

/-- What paths lead to. -/
abbrev FileView := Path → Except IoError FileTree

namespace FileView

/-- Does the path lead anywhere? -/
def has (files : FileView) (path : Path) : Bool :=
  match files path with
  | .ok _ => true
  | .error _ => false

/-- The text that is read through a path. -/
def readText (files : FileView) (path : Path) : Except IoError Text :=
  match files path with
  | .error e => .error e
  | .ok t => t.attempt.text

end FileView

/-- A file tree with a place in it to start from. -/
structure FileSystem where
  root : FileTree
  /-- The names that lead from the root to the working directory. -/
  workingDirectory : List Name
  /-- The length of the longest path that is taken, in bytes. -/
  longestPath : Nat := 4095

namespace FileSystem

/-- Follows one component from a place, given by the names that lead to it. -/
def step (fs : FileSystem) (place : List Name) (component : Name) : Except IoError (List Name) :=
  match fs.root.get? place with
  | none => .error .notFound
  | some (.directory entries) =>
    if component = [] ∨ component = [dot] then .ok place
    else if component = [dot, dot] then .ok place.dropLast
    else if (FileTree.child? entries component).isSome then .ok (place ++ [component])
    else .error .notFound
  | some (.closed e) => .error e
  | some _ => .error .notDirectory

/-- Where a path starts, and its components. -/
def start (fs : FileSystem) (path : Path) : List Name × List Name :=
  if path.head? = some slash then ([], path.tail.splitOn slash)
  else (fs.workingDirectory, path.splitOn slash)

/-- The names that lead to where the path leads.  The empty path leads nowhere. -/
def locate (fs : FileSystem) (path : Path) : Except IoError (List Name) :=
  if path.isEmpty then .error .notFound
  else if fs.longestPath < path.length then .error .nameTooLong
  else
    let (place, components) := fs.start path
    components.foldlM fs.step place

/-- What paths lead to. -/
def view (fs : FileSystem) : FileView := fun path =>
  match fs.locate path with
  | .error e => .error e
  | .ok place =>
    match fs.root.get? place with
    | some t => .ok (t.within fs.longestPath path)
    | none => .error .notFound

end FileSystem

end OrderOfGrowth
