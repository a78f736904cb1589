import OrderOfGrowth.CommandLine.Style
import OrderOfGrowth.Report.Basic
import OrderOfGrowth.Text.Blank

/-! # Pages — a report for a terminal -/

namespace OrderOfGrowth

/-- The lines of a description, without blanks at their ends and without empty ones. -/
def descriptionLines (description : Text) : List Text :=
  (description.lines.map Text.trim).filter (!·.isEmpty)

namespace CommandLine

/-- The width of a page. -/
def pageWidth : Nat := 80

/-- The width of the column of captions. -/
def captionWidth : Nat := 16

/-- The text, or its end behind three dots if it is wider than the page. -/
def truncateLeft (t : Text) : Text :=
  if t.length ≤ pageWidth then t else "...".toList ++ t.drop (t.length - (pageWidth - 3))

/-- The colour of a label. -/
def labelStyle (l : Label) : Style :=
  if l = .constant ∨ l = .logarithmic then .green
  else if l = .linear ∨ l = .linearithmic then .yellow
  else .red

/-- A caption, dots, and a label. -/
def row (color : Bool) (caption : Text) (l : Label) : Text :=
  caption ++ Style.faint.paint color (List.replicate (captionWidth - caption.length) '.') ++ [' '] ++
    (labelStyle l).paint color l.text

/-- The lines of a page. -/
def pageLines (color : Bool) (r : Report) : List Text :=
  [Style.title.paint color (truncateLeft r.name),
    List.replicate pageWidth '=',
    row color "Best case".toList r.time.best,
    row color "Average case".toList r.time.average,
    row color "Worst case".toList r.time.worst,
    row color "Space".toList r.space,
    []] ++
    (descriptionLines r.description).map (fun l => "  ".toList ++ Style.italic.paint color l) ++
    [[]]

/-- Lines, each with a line end. -/
def writeLines (ls : List Text) : Text := ls.flatMap (· ++ ['\n'])

end CommandLine

end OrderOfGrowth
