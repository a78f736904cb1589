import OrderOfGrowth.Line.Tags

/-! # Events — the effects of lines on the nesting, one at a time -/

namespace OrderOfGrowth

/-- What can open a scope. -/
inductive Opener where
  | loop
  | function (name : Option Text)
deriving DecidableEq

/-- One effect on the nesting. -/
inductive Event where
  /-- A scope opens. -/
  | enter (opener : Opener)
  /-- An allocation in the innermost open scope. -/
  | allocation
  /-- A call in the innermost open scope. -/
  | call (name : Text)
  /-- The innermost open scope closes. -/
  | leave
deriving DecidableEq

/-- The effects of a line in their order: scopes open, then the leaves, then the close. -/
def LineTags.events (t : LineTags) : List Event :=
  (if t.opensLoop then [.enter .loop] else []) ++
  (if t.opensFunction then [.enter (.function t.functionName)] else []) ++
  (if t.allocates then [.allocation] else []) ++
  t.calls.map .call ++
  (if t.closes then [.leave] else [])

/-- The effects of all lines of a source text, in order. -/
def LineRules.events (r : LineRules) (source : Text) : List Event :=
  source.lines.flatMap fun line => (r.tags line).events

end OrderOfGrowth
