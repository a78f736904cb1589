import OrderOfGrowth.Curve
import OrderOfGrowth.Estimate
import OrderOfGrowth.Idioms
import OrderOfGrowth.Outline.Draft
import OrderOfGrowth.Settings.Basic

/-! # Reports — everything known about one source text

    A study holds what the outline and the raw text each show.  A report joins the two: the space
    label of the estimate gives way to the linear one when the raw text creates an array or a map. -/

namespace OrderOfGrowth

/-- What the outline and the raw text of a source show. -/
structure Study where
  reading : Reading
  estimate : Estimate
  idioms : Idioms

/-- Studies a source text. -/
def Study.ofSource (rules : LineRules) (source : Text) : Study :=
  let reading := Reading.ofSource rules source
  ⟨reading, reading.outline.estimate, .ofSource source⟩

/-- The space label after the idioms have been taken into account. -/
def Idioms.space (i : Idioms) (inferred : Label) : Label :=
  if i.createsArray || i.createsMap then .linear else inferred

/-- The sentence that explains a label. -/
def Label.explanation (l : Label) : Text :=
  if l = .constant then "Constant time, independent of input size".toList
  else if l = .logarithmic then
    "Logarithmic growth, typically seen in divide-and-conquer algorithms".toList
  else if l = .linear then "Linear growth with input size".toList
  else if l = .linearithmic then
    "Linearithmic growth, common in efficient sorting algorithms".toList
  else if l = .quadratic then "Quadratic growth, typically seen in nested iterations".toList
  else "Complexity grows with input size".toList

/-- A label with its explanation. -/
def Label.described (l : Label) : Text := l.text ++ " - ".toList ++ l.explanation

/-- The notes on the idioms that were found. -/
def Idioms.notes (i : Idioms) : List Text :=
  (if i.createsArray then ["Note: Additional space is used for array creation.".toList] else []) ++
  (if i.createsMap then
    ["Note: Hash map/set structures require additional memory.".toList] else []) ++
  (if i.recursive then
    ["Note: Recursive calls add to the space complexity through the call stack.".toList] else [])

/-- The lines that describe the time labels. -/
def TimeLabels.lines (t : TimeLabels) : List Text :=
  ["• Best Case: ".toList ++ t.best.described,
    "• Average Case: ".toList ++ t.average.described,
    "• Worst Case: ".toList ++ t.worst.described]

/-- The description of a report: paragraphs with an empty line between them. -/
def describe (time : TimeLabels) (space : Label) (idioms : Idioms) : Text :=
  let paragraphs :=
    ["Analysis Results:".toList,
      ['\n'].intercalate ("Time Complexity:".toList :: TimeLabels.lines time),
      "Space Complexity: ".toList ++ space.described] ++ idioms.notes
  ['\n', '\n'].intercalate paragraphs

/-- Everything known about one source text. -/
structure Report where
  name : Text
  time : TimeLabels
  space : Label
  source : Text
  description : Text
  sizes : List UInt64
  /-- The curves of the time labels at the sizes. -/
  samples : Cases (List Float)

namespace Report

/-- The report on a source text that has been studied. -/
def ofStudy (settings : Settings) (source : Text) (study : Study) : Report :=
  let time := study.estimate.time
  let space := study.idioms.space study.estimate.space
  { name := settings.name
    time := time
    space := space
    source := source
    description := describe time space study.idioms
    sizes := settings.sizes
    samples := time.map fun l => (Curve.ofLabel l).samples settings.sizes }

/-- The report on a source text. -/
def ofSource (settings : Settings) (source : Text) : Report :=
  ofStudy settings source (.ofSource settings.lineRules source)

end Report

end OrderOfGrowth
