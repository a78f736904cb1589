import OrderOfGrowth.Glob.Plan

/-! # Marks — which paths a glob accepts

    A path has a place before each of its bytes and one behind the last.  Going through the tokens
    from left to right, we keep a mark on every place that the tokens so far can lead to from the
    start of the path:

    * `across`: one byte of some kind moves each mark on by one place, or drops it;
    * `onward`: any bytes spread each mark over all places behind it;
    * `union`: a choice keeps the marks of both sides.

    Every other token is made up of these.  So a path is decided in time proportional to its length
    and to the number of tokens, however many ways there are to match it. -/

namespace OrderOfGrowth.Glob

/-- A mark, or none, for each place of a path. -/
abbrev Marks := List Bool

namespace Marks

/-- The first place is marked. -/
def first (path : Bytes) : Marks := true :: path.map fun _ => false

/-- Marks move over one byte that passes the test. -/
def across (test : UInt8 → Bool) (path : Bytes) (m : Marks) : Marks :=
  false :: List.zipWith (fun b here => here && test b) path m

/-- Marks spread to all places behind them: everything from the first mark on. -/
def onward (m : Marks) : Marks := m.takeWhile (!·) ++ (m.dropWhile (!·)).map fun _ => true

/-- The marks of both. -/
def union (m n : Marks) : Marks := List.zipWith (· || ·) m n

/-- No marks on the same places. -/
def clear (m : Marks) : Marks := m.map fun _ => false

/-- Is the last place marked? -/
def reachesEnd (m : Marks) : Bool := m.getLast? == some true

/-- Marks move over a slash. -/
def acrossSlash (path : Bytes) (m : Marks) : Marks := across (· == slash) path m

/-- Marks stay, or move on to a place behind some slash. -/
def stayOrBehindSlash (path : Bytes) (m : Marks) : Marks := union m (acrossSlash path (onward m))

end Marks

mutual

/-- The marks behind a token. -/
def Token.pass (path : Bytes) : Token → Marks → Marks
  | .literal c, m => (String.utf8EncodeChar c).foldl (fun m b => Marks.across (· == b) path m) m
  | .anyByte, m => Marks.across (fun _ => true) path m
  | .anyBytes, m => Marks.onward m
  | .leading, m => Marks.stayOrBehindSlash path m
  | .trailing, m => Marks.onward (Marks.acrossSlash path m)
  | .between, m => Marks.stayOrBehindSlash path (Marks.acrossSlash path m)
  | .oneOf negated ranges, m => Marks.across (classAccepts negated ranges) path m
  | .group branches, m => if areVoid branches then m else passSome path branches m

/-- The marks behind a row of tokens. -/
def passRow (path : Bytes) : List Token → Marks → Marks
  | [], m => m
  | t :: ts, m => passRow path ts (t.pass path m)

/-- The marks behind one of the rows that stand for a condition. -/
def passSome (path : Bytes) : List (List Token) → Marks → Marks
  | [], m => Marks.clear m
  | row :: rows, m =>
    if isVoidRow row then passSome path rows m
    else Marks.union (passRow path row m) (passSome path rows m)

end

/-- Does the row accept the whole path? -/
def rowAccepts (row : List Token) (path : Bytes) : Bool :=
  Marks.reachesEnd (passRow path row (Marks.first path))

/-- Does the glob accept the path? -/
def accepts (g : Glob) (path : Path) : Bool :=
  (!g.plan.asksForName || hasName path) && rowAccepts g.row path

end OrderOfGrowth.Glob
