import OrderOfGrowth.Json.Decoder
import OrderOfGrowth.Json.Writer
import OrderOfGrowth.Settings.Basic

/-! # Settings as JSON

    All fields are written, in a fixed order.  When they are read, a field that is absent takes its
    standard value, in the keyword tables too. -/

namespace OrderOfGrowth

open Json (Value Field Record Decoder)

namespace Keywords

/-- The keyword tables as a value. -/
def toJson (k : Keywords) : Value :=
  .record
    [("loop_prefixes", .list (k.loops.map .text)),
      ("function_prefixes", .list (k.functions.map .text)),
      ("allocation_markers", .list (k.allocations.map .text))]

/-- Keyword tables with gaps. -/
structure Gaps where
  loops : Option (List Text)
  functions : Option (List Text)
  allocations : Option (List Text)

/-- How keyword tables are put together. -/
def record : Record Gaps Keywords where
  name := "KeywordSet"
  fields :=
    [.of "loop_prefixes" (.list .text) Gaps.loops fun s a => { s with loops := some a },
      .of "function_prefixes" (.list .text) Gaps.functions fun s a => { s with functions := some a },
      .of "allocation_markers" (.list .text) Gaps.allocations fun s a =>
        { s with allocations := some a }]
  blank := ⟨none, none, none⟩
  finish _ s := .ok
    { loops := s.loops.getD standard.loops
      functions := s.functions.getD standard.functions
      allocations := s.allocations.getD standard.allocations }

/-- Decodes keyword tables. -/
def decoder : Decoder Keywords := record.decoder

end Keywords

namespace Settings

/-- The settings as a value. -/
def toJson (s : Settings) : Value :=
  .record
    [("name", .text s.name),
      ("input_sizes", .list (s.sizes.map fun n => .number (.natural n))),
      ("keywords", s.keywords.toJson),
      ("track_self_calls", .bool s.tracksCalls),
      ("ignore", .list (s.ignore.map .text))]

/-- Settings with gaps. -/
structure Gaps where
  name : Option Text
  sizes : Option (List UInt64)
  keywords : Option Keywords
  tracksCalls : Option Bool
  ignore : Option (List Text)

/-- How settings are put together. -/
def record : Record Gaps Settings where
  name := "AnalyzerConfig"
  fields :=
    [.of "name" .text Gaps.name fun s a => { s with name := some a },
      .of "input_sizes" (.list .size) Gaps.sizes fun s a => { s with sizes := some a },
      .of "keywords" Keywords.decoder Gaps.keywords fun s a => { s with keywords := some a },
      .of "track_self_calls" .bool Gaps.tracksCalls fun s a => { s with tracksCalls := some a },
      .of "ignore" (.list .text) Gaps.ignore fun s a => { s with ignore := some a }]
  blank := ⟨none, none, none, none, none⟩
  finish _ s := .ok
    { name := s.name.getD standard.name
      sizes := s.sizes.getD standard.sizes
      keywords := s.keywords.getD standard.keywords
      tracksCalls := s.tracksCalls.getD standard.tracksCalls
      ignore := s.ignore.getD standard.ignore }

/-- Decodes settings. -/
def decoder : Decoder Settings := record.decoder

/-- The text of a settings file. -/
def write (s : Settings) : Text := s.toJson.indented

/-- Reads the text of a settings file. -/
def read (t : Text) : Except Json.Error Settings := decoder.decode t

end Settings

end OrderOfGrowth
