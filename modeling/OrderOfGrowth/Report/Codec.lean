import OrderOfGrowth.Json.Decoder
import OrderOfGrowth.Json.Writer
import OrderOfGrowth.Report.Basic

/-! # Reports as JSON

    No field of a report has a default: one that is absent is an error. -/

namespace OrderOfGrowth

open Json (Value Field Record Decoder Mismatch)

/-- The value of a field, or the report that it is missing. -/
def required {α : Type} (missing : Nat → Text → Mismatch) (place : Nat) (name : String)
    (a : Option α) : Except Mismatch α :=
  match a with
  | some a => .ok a
  | none => .error (missing place name.toList)

namespace Label

/-- A label is its text. -/
def toJson (l : Label) : Value := .text l.text

/-- Decodes a label. -/
def decoder : Decoder Label := .map Label.mk .text

end Label

namespace Cases

variable {α : Type}

/-- Three cases as a value. -/
def toJson (item : α → Value) (c : Cases α) : Value :=
  .record [("best", item c.best), ("average", item c.average), ("worst", item c.worst)]

/-- Three cases with gaps. -/
structure Gaps (α : Type) where
  best : Option α
  average : Option α
  worst : Option α

/-- How three cases are put together. -/
def record (name : String) (item : Decoder α) : Record (Gaps α) (Cases α) where
  name := name
  fields :=
    [.of "best" item Gaps.best fun s a => { s with best := some a },
      .of "average" item Gaps.average fun s a => { s with average := some a },
      .of "worst" item Gaps.worst fun s a => { s with worst := some a }]
  blank := ⟨none, none, none⟩
  finish missing s := do
    let best ← required missing 0 "best" s.best
    let average ← required missing 1 "average" s.average
    let worst ← required missing 2 "worst" s.worst
    return ⟨best, average, worst⟩

end Cases

/-- Decodes time labels. -/
def TimeLabels.decoder : Decoder TimeLabels := (Cases.record "TimeComplexity" Label.decoder).decoder

/-- Decodes the samples of three curves. -/
def samplesDecoder : Decoder (Cases (List Float)) :=
  (Cases.record "TimeData" (.list .sample)).decoder

namespace Idioms

/-- The idioms as a value. -/
def toJson (i : Idioms) : Value :=
  .record
    [("hasArrayCreation", .bool i.createsArray), ("hasHashMap", .bool i.createsMap),
      ("hasRecursion", .bool i.recursive)]

/-- Idioms with gaps. -/
structure Gaps where
  createsArray : Option Bool
  createsMap : Option Bool
  recursive : Option Bool

/-- How idioms are put together. -/
def record : Record Gaps Idioms where
  name := "PatternFlags"
  fields :=
    [.of "hasArrayCreation" .bool Gaps.createsArray fun s a => { s with createsArray := some a },
      .of "hasHashMap" .bool Gaps.createsMap fun s a => { s with createsMap := some a },
      .of "hasRecursion" .bool Gaps.recursive fun s a => { s with recursive := some a }]
  blank := ⟨none, none, none⟩
  finish missing s := do
    let createsArray ← required missing 0 "hasArrayCreation" s.createsArray
    let createsMap ← required missing 1 "hasHashMap" s.createsMap
    let recursive ← required missing 2 "hasRecursion" s.recursive
    return ⟨createsArray, createsMap, recursive⟩

/-- Decodes idioms. -/
def decoder : Decoder Idioms := record.decoder

end Idioms

namespace Report

/-- The samples of a curve as a value. -/
def samplesToJson (xs : List Float) : Value := .list (xs.map .ofFloat)

/-- The report as a value. -/
def toJson (r : Report) : Value :=
  .record
    [("name", .text r.name),
      ("timeComplexity", r.time.toJson Label.toJson),
      ("spaceComplexity", r.space.toJson),
      ("sourceCode", .text r.source),
      ("description", .text r.description),
      ("inputSizes", .list (r.sizes.map fun n => .number (.natural n))),
      ("timeData", r.samples.toJson samplesToJson)]

/-- A report with gaps. -/
structure Gaps where
  name : Option Text
  time : Option TimeLabels
  space : Option Label
  source : Option Text
  description : Option Text
  sizes : Option (List UInt64)
  samples : Option (Cases (List Float))

/-- How a report is put together. -/
def record : Record Gaps Report where
  name := "AnalysisResult"
  fields :=
    [.of "name" .text Gaps.name fun s a => { s with name := some a },
      .of "timeComplexity" TimeLabels.decoder Gaps.time fun s a => { s with time := some a },
      .of "spaceComplexity" Label.decoder Gaps.space fun s a => { s with space := some a },
      .of "sourceCode" .text Gaps.source fun s a => { s with source := some a },
      .of "description" .text Gaps.description fun s a => { s with description := some a },
      .of "inputSizes" (.list .size) Gaps.sizes fun s a => { s with sizes := some a },
      .of "timeData" samplesDecoder Gaps.samples fun s a => { s with samples := some a }]
  blank := ⟨none, none, none, none, none, none, none⟩
  finish missing s := do
    let name ← required missing 0 "name" s.name
    let time ← required missing 1 "timeComplexity" s.time
    let space ← required missing 2 "spaceComplexity" s.space
    let source ← required missing 3 "sourceCode" s.source
    let description ← required missing 4 "description" s.description
    let sizes ← required missing 5 "inputSizes" s.sizes
    let samples ← required missing 6 "timeData" s.samples
    return ⟨name, time, space, source, description, sizes, samples⟩

/-- Decodes a report. -/
def decoder : Decoder Report := record.decoder

end Report

end OrderOfGrowth
