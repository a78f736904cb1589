import OrderOfGrowth.FileTree.Basic
import OrderOfGrowth.Glob.Library
import OrderOfGrowth.Json.Error
import OrderOfGrowth.Settings.Basic

/-! # Failures — what can go wrong around an analysis

    The analysis itself always succeeds.  Settings, globs and files can be at fault. -/

namespace OrderOfGrowth

/-- What went wrong. -/
inductive Failure where
  | io (e : IoError)
  | json (e : Json.Error)
  /-- The library refuses a pattern, or several, in its own words. -/
  | glob (pattern message : Text)
  | settings (e : Settings.Fault)
  | source (path : Path) (e : IoError)

namespace Failure

/-- The wording of a failure. -/
def message : Failure → Text
  | io e => "I/O error: ".toList ++ e.message
  | json e => "Invalid JSON: ".toList ++ e.message
  | glob pattern message =>
    "Invalid ignore pattern '".toList ++ pattern ++ "': ".toList ++ message
  | settings e => "Invalid configuration: ".toList ++ e.message
  | source path e => "Failed to read ".toList ++ path.shown ++ ": ".toList ++ e.message

/-- The messages of a failure and of the cause that it carries. -/
def chain : Failure → List Text
  | io e => [(io e).message, e.message]
  | json e => [(json e).message, e.message]
  | source path e => [(source path e).message, e.message]
  | f => [f.message]

end Failure

/-- Reads patterns in order, up to the first that is refused. -/
def GlobLibrary.readAll (globs : GlobLibrary) : List Text → Except Failure (List globs.Pattern)
  | [] => .ok []
  | p :: ps =>
    match globs.read p with
    | .error message => .error (.glob p message)
    | .ok q => (globs.readAll ps).map (q :: ·)

/-- The matcher for the patterns of the settings, unless the library refuses them. -/
def Settings.matcher (globs : GlobLibrary) (s : Settings) : Except Failure globs.Matcher :=
  match globs.readAll s.ignore with
  | .error f => .error f
  | .ok patterns =>
    match globs.compile patterns with
    | .error message => .error (.glob (", ".toList.intercalate s.ignore) message)
    | .ok matcher => .ok matcher

/-- The settings, unless they are at fault. -/
def Settings.checked (s : Settings) : Except Failure Settings :=
  match s.fault? with
  | none => .ok s
  | some f => .error (.settings f)

end OrderOfGrowth
