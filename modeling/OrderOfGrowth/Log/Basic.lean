import OrderOfGrowth.FileTree.Path
import OrderOfGrowth.Report.Basic
import OrderOfGrowth.Text.Quoted

/-! # The log — what a run tells about itself -/

namespace OrderOfGrowth.Log

/-- How important a record is. -/
inductive Level where
  | trace
  | debug
  | info
  | warn
  | error
deriving DecidableEq

/-- The rank of a level, from the least important up. -/
def Level.rank : Level → Nat
  | .trace => 0
  | .debug => 1
  | .info => 2
  | .warn => 3
  | .error => 4

/-- The name of a level, five characters wide. -/
def Level.name : Level → Text
  | .trace => "TRACE".toList
  | .debug => "DEBUG".toList
  | .info => " INFO".toList
  | .warn => " WARN".toList
  | .error => "ERROR".toList

/-- One entry of the log. -/
structure Record where
  level : Level
  /-- The part of the program that speaks. -/
  target : String
  message : String
  fields : List (String × Text)

/-- Has the record a field of that name?  The message is a field too. -/
def Record.has (r : Record) (name : Text) : Bool :=
  name == "message".toList || r.fields.any (·.1.toList == name)

/-- A record as a line. -/
def Record.write (r : Record) : Text :=
  r.level.name ++ [' '] ++ r.target.toList ++ ": ".toList ++ r.message.toList ++
    r.fields.flatMap fun (name, value) => ' ' :: name.toList ++ '=' :: value

/-! ## What a run tells -/

/-- A truth value as a field. -/
def flag (b : Bool) : Text := (if b then "true" else "false").toList

/-- Settings were read from a file. -/
def loadedSettings (path : Path) : Record :=
  ⟨.debug, "asymptote::config", "loaded configuration", [("path", path.shown)]⟩

/-- No settings file was found. -/
def noSettings : Record :=
  ⟨.debug, "asymptote::config", "no configuration file found, using defaults", []⟩

/-- A source text was read. -/
def ofReading (r : Reading) : Record :=
  ⟨.debug, "asymptote::parser", "parsed structural tree",
    [("lines", .ofNat r.lineCount), ("loops", .ofNat (r.outline.count .loop)),
      ("functions", .ofNat (r.outline.count .function)),
      ("allocations", .ofNat (r.outline.count .allocation)), ("unclosed", .ofNat r.unclosed),
      ("ignored_closes", .ofNat r.ignoredCloses)]⟩

/-- An estimate was made. -/
def ofEstimate (e : Estimate) : Record :=
  ⟨.debug, "asymptote::inference", "inferred complexity",
    [("max_depth", .ofNat e.tally.deepest), ("allocations", .ofNat e.tally.allocations),
      ("recursion", flag e.tally.recursive), ("worst", e.time.worst.text), ("space", e.space.text)]⟩

/-- The raw text was scanned. -/
def ofIdioms (i : Idioms) : Record :=
  ⟨.trace, "asymptote::patterns", "scanned source patterns",
    [("flags", "PatternFlags \x7b has_array_creation: ".toList ++ flag i.createsArray ++
      ", has_hash_map: ".toList ++ flag i.createsMap ++ ", has_recursion: ".toList ++
      flag i.recursive ++ " \x7d".toList)]⟩

/-- A label had no curve of its own. -/
def ofLabel (l : Label) : List Record :=
  match Curve.ofLabel? l with
  | some _ => []
  | none =>
    [⟨.trace, "asymptote::curves", "no dedicated curve, sampling linearly",
      [("label", l.text.quoted)]⟩]

/-- All records of a study, in order. -/
def ofStudy (s : Study) : List Record :=
  let time := s.estimate.time
  [ofReading s.reading, ofEstimate s.estimate, ofIdioms s.idioms] ++
    ofLabel time.best ++ ofLabel time.average ++ ofLabel time.worst

end OrderOfGrowth.Log
