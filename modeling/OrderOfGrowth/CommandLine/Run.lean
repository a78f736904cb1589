import OrderOfGrowth.CommandLine.Arguments
import OrderOfGrowth.CommandLine.Page
import OrderOfGrowth.FileTree.Walk
import OrderOfGrowth.Log.Filter
import OrderOfGrowth.Report.Codec
import OrderOfGrowth.Settings.Load

/-! # A run of the program

    A run is a function of the library for its globs, of its arguments and of what it finds around it,
    and ends in an exit code and two texts.  Settings that cannot be loaded, globs that are refused
    and standard input that is no text end it with code 1 and no output; a file that is missing or
    cannot be read only adds a line to the error text. -/

namespace OrderOfGrowth.CommandLine

/-- What a run finds around it. -/
structure Environment where
  files : FileView
  /-- The user's directory for configuration files, if there is one. -/
  configurationDirectory : Option Path
  /-- The log filter of the environment, if there is one that is a text. -/
  logFilter : Option Text
  color : Bool
  input : Contents

/-- How a run ends. -/
structure Outcome where
  code : Nat
  output : Text
  errors : Text
deriving DecidableEq

/-- What a run tells while it works. -/
inductive Notice where
  | log (r : Log.Record)
  /-- A path leads to neither a file nor a directory. -/
  | noSuchPath (path : Path)
  /-- A file could not be read. -/
  | skipped (f : Failure)

/-- Why a run ends early. -/
inductive Abort where
  /-- The settings could not be loaded, from the named file if one was named. -/
  | settings (path : Option Path) (f : Failure)
  /-- Standard input is no text. -/
  | input (e : IoError)
  /-- The globs were refused. -/
  | globs (f : Failure)

/-- The messages of an early end, from the outermost cause to the innermost. -/
def Abort.chain : Abort → List Text
  | .settings none f => "failed to load config".toList :: f.chain
  | .settings (some path) f => ("failed to load config from ".toList ++ path.shown) :: f.chain
  | .input e => ["failed to read stdin".toList, e.message]
  | .globs f => f.chain

/-! ## Analysis -/

/-- Reports, and what was told on the way to them. -/
structure Findings where
  reports : List Report
  notices : List Notice

namespace Findings

/-- Findings one after the other. -/
def concat (fs : List Findings) : Findings := ⟨fs.flatMap reports, fs.flatMap notices⟩

end Findings

/-- The findings on a source text. -/
def analyseText (settings : Settings) (source : Text) : Findings :=
  let study := Study.ofSource settings.lineRules source
  ⟨[.ofStudy settings source study], (Log.ofStudy study).map .log⟩

/-- The findings on a file, which goes by its path as it is printed. -/
def analyseFile (settings : Settings) (path : Path) (attempt : Attempt) : Findings :=
  match attempt.text with
  | .ok source => analyseText { settings with name := path.shown } source
  | .error e => ⟨[], [.skipped (.source path e)]⟩

/-- The files of a tree that lies at a path, but for those to be passed over, with their paths. -/
def walkedFiles (ignored : Path → Bool) (path : Path) (t : FileTree) : List (Path × Attempt) :=
  (t.walk path).filter (!ignored ·.1)

/-- The findings on a path.  A file that was named is never passed over. -/
def analysePath (files : FileView) (settings : Settings) (ignored : Path → Bool) (path : Path) :
    Findings :=
  match files path with
  | .ok (.file a) => analyseFile settings path a
  | .ok (.device _) => ⟨[], [.noSuchPath path]⟩
  | .ok t => .concat ((walkedFiles ignored path t).map fun (p, a) => analyseFile settings p a)
  | .error _ => ⟨[], [.noSuchPath path]⟩

/-- The findings on all paths, in order. -/
def analysePaths (files : FileView) (settings : Settings) (ignored : Path → Bool)
    (paths : List Path) : Findings :=
  .concat (paths.map (analysePath files settings ignored))

/-! ## The run -/

/-- Loads the settings, and tells where from. -/
def loadSettings (i : Invocation) (env : Environment) : Except Abort (Settings × Notice) :=
  match i.settings with
  | some path =>
    match Settings.loadFile env.files path with
    | .ok s => .ok (s, .log (Log.loadedSettings path))
    | .error f => .error (.settings (some path) f)
  | none =>
    match Settings.load env.files env.configurationDirectory with
    | .ok s =>
      let told := match Settings.candidate? env.files env.configurationDirectory with
        | some path => Log.loadedSettings path
        | none => Log.noSettings
      .ok (s, .log told)
    | .error f => .error (.settings none f)

/-- Analyses what was asked for with the settings given. -/
def analyse (globs : GlobLibrary) (i : Invocation) (env : Environment) (settings : Settings) :
    Except Abort Findings :=
  if i.paths.isEmpty then
    match env.input.text? with
    | some source => .ok (analyseText settings source)
    | none => .error (.input .notText)
  else
    match settings.matcher globs with
    | .ok matcher => .ok (analysePaths env.files settings (globs.accepts matcher) i.paths)
    | .error f => .error (.globs f)

/-- The output for some reports. -/
def present (format : Format) (color : Bool) (reports : List Report) : Text :=
  match format with
  | .json => writeLines [(Json.Value.list (reports.map Report.toJson)).indented]
  | .pretty => reports.flatMap fun r => writeLines (pageLines color r)

/-- The log filter of a run: that of the environment, if it has one that can be read. -/
def logFilter (i : Invocation) (env : Environment) : Log.Filter :=
  (env.logFilter.bind Log.Filter.ofText?).getD (.standard i.verbose)

/-- The lines that a notice adds to the error text. -/
def Notice.lines (filter : Log.Filter) (color : Bool) : Notice → List Text
  | .log r => if filter.keeps r then [r.write] else []
  | .noSuchPath path =>
    [Style.yellow.paint color "Warning:".toList ++ [' '] ++ path.shown ++
      " is not a file or directory".toList]
  | .skipped f => [Style.yellow.paint color "Skipping:".toList ++ [' '] ++ f.message]

/-- The line that reports an early end. -/
def Abort.line (color : Bool) (a : Abort) : Text :=
  Style.alarm.paint color "Error:".toList ++ [' '] ++ ": ".toList.intercalate a.chain

/-- Runs the program as asked for. -/
def Invocation.outcome (globs : GlobLibrary) (i : Invocation) (env : Environment) : Outcome :=
  let lines := fun (ns : List Notice) => ns.flatMap (Notice.lines (logFilter i env) env.color)
  match loadSettings i env with
  | .error a => ⟨1, [], writeLines [a.line env.color]⟩
  | .ok (settings, told) =>
    match analyse globs i env settings with
    | .error a => ⟨1, [], writeLines (lines [told] ++ [a.line env.color])⟩
    | .ok found =>
      ⟨0, present i.format env.color found.reports, writeLines (lines (told :: found.notices))⟩

/-- The name and version of the program. -/
def versionText : Text := "asymptote 0.1.0\n".toList

/-- How the program is used. -/
def usageText : Text :=
  writeLines (["Estimate time and space complexity from source text",
    "",
    "Usage: asymptote [OPTIONS] [PATH]...",
    "",
    "Arguments:",
    "  [PATH]...  Files or directories to analyze (reads stdin when omitted)",
    "",
    "Options:",
    "  -f, --format <FORMAT>  Output format [default: pretty] [possible values: pretty, json]",
    "  -c, --config <CONFIG>  Configuration file path",
    "  -v, --verbose          Enable debug logging",
    "  -h, --help             Print help",
    "  -V, --version          Print version"].map (·.toList))

/-- Answers a request. -/
def Request.outcome (globs : GlobLibrary) (r : Request) (env : Environment) : Outcome :=
  match r with
  | .run i => i.outcome globs env
  | .version => ⟨0, versionText, []⟩
  | .help => ⟨0, usageText, []⟩
  | .misuse => ⟨2, [], usageText⟩

end OrderOfGrowth.CommandLine
