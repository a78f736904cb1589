import OrderOfGrowth.Failure
import OrderOfGrowth.FileTree.Edit
import OrderOfGrowth.Settings.Codec

/-! # Settings files — where settings are looked for

    Without a path, the first file that exists of a fixed list is taken, whatever it holds: two
    names in the working directory, then one in the user's configuration directory. -/

namespace OrderOfGrowth

/-- Where the user's own files are. -/
structure UserDirectories where
  /-- The configuration directory, heeded only if it is an absolute path. -/
  configuration : Option Path
  home : Option Path
  /-- The home directory of the user's account, heeded if there is no other. -/
  account : Option Path

/-- The directory for configuration files. -/
def UserDirectories.configurationDirectory? (u : UserDirectories) : Option Path :=
  match u.configuration.filter (·.head? = some slash) with
  | some path => some path
  | none => ((u.home.filter (!·.isEmpty)).or u.account).map (·.join (Text.bytes ".config".toList))

namespace Settings

/-- Reads a settings file. -/
def loadFile (files : FileView) (path : Path) : Except Failure Settings :=
  match files.readText path with
  | .error e => .error (.io e)
  | .ok text =>
    match read text with
    | .error e => .error (.json e)
    | .ok s => s.checked

/-- Writes a settings file. -/
def saveFile (s : Settings) (fs : FileSystem) (path : Path) : Except Failure FileSystem :=
  match fs.save path (.ofText s.write) with
  | .error e => .error (.io e)
  | .ok fs => .ok fs

/-- The paths at which a settings file is looked for, the last one below the given directory. -/
def candidates (directory : Option Path) : List Path :=
  [Text.bytes ".asymptote.json".toList, Text.bytes "asymptote.json".toList] ++
    directory.toList.map fun d =>
      (d.join (Text.bytes "asymptote".toList)).join (Text.bytes "config.json".toList)

/-- The first path at which there is a settings file. -/
def candidate? (files : FileView) (directory : Option Path) : Option Path :=
  (candidates directory).find? files.has

/-- The settings of the first settings file, or the standard ones if there is none. -/
def load (files : FileView) (directory : Option Path) : Except Failure Settings :=
  match candidate? files directory with
  | some path => loadFile files path
  | none => .ok standard

end Settings

end OrderOfGrowth
