import OrderOfGrowth.CommandLine.Run
import OrderOfGrowth.IgnoreSet

/-! # The program

    Looks up the paths that a run will ask for, hands everything to the pure run, and prints what
    comes out.  The system gives names and arguments to the program as texts. -/

namespace OrderOfGrowth.Main

open CommandLine

/-- An error of the system in its own words. -/
def inWords (code : UInt32) (details : String) : IoError :=
  .other (details.toList ++ " (os error ".toList ++ Text.ofNat code.toNat ++ [')'])

/-- The error of the file system that stands for an error of the system. -/
def ioError : IO.Error → IoError
  | .noFileOrDirectory .. => .notFound
  | .permissionDenied _ code details => if code = 13 then .denied else inWords code details
  | .inappropriateType _ code details =>
    if code = 20 then .notDirectory
    else if code = 21 then .isDirectory
    else inWords code details
  | .invalidArgument _ code details => if code = 36 then .nameTooLong else inWords code details
  | .resourceExhausted _ code details => inWords code details
  | .hardwareFault code details => inWords code details
  | .otherError code details => inWords code details
  | e => .other e.toString.toList

/-- A place in the file system, with its whole path as the root of an entry. -/
def placeAt (path : String) : IO.FS.DirEntry := ⟨path, ""⟩

/-- What comes of reading a place. -/
def attempt (place : IO.FS.DirEntry) : IO Attempt := do
  match ← (IO.FS.readBinFile place.root).toBaseIO with
  | .ok c => return .ok c
  | .error e => return .error (ioError e)

/-- What lies at a place of the given type.  A link below a directory is not followed. -/
partial def readTree (place : IO.FS.DirEntry) : IO.FS.FileType → IO FileTree
  | .file => return .file (← attempt place)
  | .dir => do
    match ← place.root.readDir.toBaseIO with
    | .error e => return .closed (ioError e)
    | .ok found =>
      let entries ← found.toList.filterMapM fun entry => do
        match ← entry.path.symlinkMetadata.toBaseIO with
        | .ok data =>
          let below ← readTree ⟨entry.path, ""⟩ data.type
          return some (Text.bytes entry.fileName.toList, below)
        | .error _ => return none
      return .directory entries
  | _ => return .device (.error .notFound)

/-- What lies at a path, in the words of a function that is given the place and its type. -/
def lookUp (read : IO.FS.DirEntry → IO.FS.FileType → IO FileTree) (path : Path) :
    IO (Except IoError FileTree) := do
  if path.isEmpty then return .error .notFound
  let place := placeAt (String.ofList path.shown)
  match ← place.root.metadata.toBaseIO with
  | .ok data => return .ok (← read place data.type)
  | .error e => return .error (ioError e)

/-- What a settings file holds.  It may be a device, which is read. -/
def readSettings (place : IO.FS.DirEntry) : IO.FS.FileType → IO FileTree
  | .dir => return .directory []
  | .file => return .file (← attempt place)
  | _ => return .device (← attempt place)

/-- Looks up paths, up to the first that leads anywhere. -/
def lookUpFirst : List Path → IO (List (Path × Except IoError FileTree))
  | [] => return []
  | path :: paths => do
    match ← lookUp readSettings path with
    | .ok t => return [(path, .ok t)]
    | .error e => return (path, .error e) :: (← lookUpFirst paths)

/-- The home directory of the account with the given number, in a list of accounts. -/
def homeOf? (number : Text) (accounts : Text) : Option Path :=
  accounts.lines.findSome? fun line =>
    match line.splitOn ':' with
    | [_, _, n, _, _, home, _] => if n = number then some (Text.bytes home) else none
    | _ => none

/-- The home directory of the account that the program runs under. -/
def accountHome? : IO (Option Path) := do
  let text := fun (path : String) => do
    return ((← attempt (placeAt path)).toOption.bind Contents.text?).getD []
  let words := fun (line : Text) => (line.map fun c => if c = '\t' then ' ' else c).splitOn ' '
  let numbers := (← text "/proc/self/status").lines.filterMap fun line =>
    match words line with
    | title :: _ :: effective :: _ => if title = "Uid:".toList then some effective else none
    | _ => none
  let accounts ← text "/etc/passwd"
  return numbers.findSome? (homeOf? · accounts)

/-- Where the user's own files are. -/
def userDirectories : IO UserDirectories := do
  let setting := fun name => do return (← IO.getEnv name).map fun value => Text.bytes value.toList
  return ⟨← setting "XDG_CONFIG_HOME", ← setting "HOME", ← accountHome?⟩

/-- Looks up everything that a run will ask for. -/
def surroundings (r : Request) : IO Environment := do
  let directory := (← userDirectories).configurationDirectory?
  let (settings, paths, readsInput) := match r with
    | .run i =>
      (i.settings.elim (Settings.candidates directory) ([·]), i.paths, i.paths.isEmpty)
    | _ => ([], [], false)
  let file ← lookUpFirst settings
  let found ← paths.mapM fun p => do return (p, ← lookUp readTree p)
  let input ← if readsInput then (← IO.getStdin).readBinToEnd else pure ByteArray.empty
  return {
    files := fun p =>
      (((file ++ found).find? (·.1 == p)).map (·.2)).getD (.error .notFound)
    configurationDirectory := directory
    logFilter := (← IO.getEnv "RUST_LOG").map (·.toList)
    color := (← IO.getEnv "CLICOLOR_FORCE").any (· != "0")
    input := input }

end OrderOfGrowth.Main

/-- Runs the program. -/
def main (args : List String) : IO UInt32 := do
  let request := OrderOfGrowth.CommandLine.Request.ofArguments
    (args.map fun a => OrderOfGrowth.Text.bytes a.toList)
  let out := request.outcome .standard (← OrderOfGrowth.Main.surroundings request)
  (← IO.getStdout).putStr (String.ofList out.output)
  (← IO.getStderr).putStr (String.ofList out.errors)
  return out.code.toUInt32
