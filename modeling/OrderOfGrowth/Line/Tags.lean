import OrderOfGrowth.Line.Keywords
import OrderOfGrowth.Line.DeclaredName
import OrderOfGrowth.Line.Calls

/-! # Line tags — what one line does to the nesting

    Tags are found independently of each other, so a line can carry several.  A line closes a block
    only if it is a lone closing brace. -/

namespace OrderOfGrowth

/-- What one line does. -/
structure LineTags where
  opensLoop : Bool
  opensFunction : Bool
  /-- The declared name, when the line opens a named function. -/
  functionName : Option Text
  allocates : Bool
  closes : Bool
  /-- The names called, when calls are tracked. -/
  calls : List Text
deriving DecidableEq

/-- Does the line do nothing at all? -/
def LineTags.isEmpty (t : LineTags) : Bool :=
  !t.opensLoop && !t.opensFunction && !t.allocates && !t.closes && t.calls.isEmpty

/-- The rules that lines are read by. -/
structure LineRules where
  keywords : Keywords
  /-- Are calls recorded? -/
  tracksCalls : Bool
deriving DecidableEq

namespace LineRules

/-- The standard keywords, without calls. -/
def standard : LineRules := ⟨Keywords.standard, false⟩

/-- The first function keyword that the line starts with. -/
def functionKeyword? (r : LineRules) (line : Text) : Option Text :=
  r.keywords.functions.find? (·.isPrefixOf line)

/-- The tags of a line that has no blanks at its ends. -/
def trimmedTags (r : LineRules) (line : Text) : LineTags :=
  let keyword := r.functionKeyword? line
  let name := keyword.bind fun k => declaredName? (line.drop k.length)
  { opensLoop := r.keywords.loops.any (·.isPrefixOf line)
    opensFunction := keyword.isSome
    functionName := name
    allocates := r.keywords.allocations.any (Text.has · line)
    closes := line == ['\x7d']
    calls := if r.tracksCalls then callNames name line else [] }

/-- The tags of a line; blanks at its ends do not matter. -/
def tags (r : LineRules) (line : Text) : LineTags := r.trimmedTags line.trim

end LineRules

end OrderOfGrowth
