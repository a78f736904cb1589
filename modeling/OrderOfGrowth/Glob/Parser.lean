import OrderOfGrowth.Glob.Basic

/-! # Reading globs

    A pattern is read from left to right.  Open groups form a stack, and tokens go to the last branch
    of the innermost one.  What a double star means hangs on the character before it, on the one
    after it, and on whether its branch is still empty. -/

namespace OrderOfGrowth

namespace Glob

/-- Why a pattern cannot be read. -/
inductive Fault where
  | unclosedClass
  | invalidRange (first last : Char)
  | unopenedGroup
  | unclosedGroup
  | danglingEscape
deriving DecidableEq

/-- The wording of a fault. -/
def Fault.message : Fault → Text
  | .unclosedClass => "unclosed character class; missing ']'".toList
  | .invalidRange first last =>
    "invalid range; '".toList ++ [first] ++ "' > '".toList ++ [last] ++ "'".toList
  | .unopenedGroup =>
    "unopened alternate group; missing '\x7b' (maybe escape '\x7d' with '[\x7d]'?)".toList
  | .unclosedGroup =>
    "unclosed alternate group; missing '\x7d' (maybe escape '\x7b' with '[\x7b]'?)".toList
  | .danglingEscape => "dangling '\\'".toList

/-- A group that is being read: its finished branches and its last branch, both the latest first. -/
structure OpenGroup where
  branches : List (List Token)
  row : List Token

/-- What has been read of a pattern. -/
structure State where
  /-- The innermost group; outside all braces, the pattern itself. -/
  inner : OpenGroup
  /-- The groups around it. -/
  outer : List OpenGroup

namespace State

/-- Nothing read yet. -/
def empty : State := ⟨⟨[], []⟩, []⟩

/-- Are we inside braces? -/
def inGroup (s : State) : Bool := !s.outer.isEmpty

/-- Adds a token. -/
def push (s : State) (t : Token) : State := { s with inner := { s.inner with row := t :: s.inner.row } }

/-- Puts a token in the place of the last one, unless that one takes everything up to a slash or
    after one by itself. -/
def replaceLast (s : State) (t : Token) : State :=
  match s.inner.row with
  | .leading :: _ => s
  | .trailing :: _ => s
  | row => { s with inner := { s.inner with row := t :: row.tail } }

/-- Opens a group. -/
def openGroup (s : State) : State := ⟨⟨[], []⟩, s.inner :: s.outer⟩

/-- Starts the next branch of a group. -/
def nextBranch (s : State) : State :=
  { s with inner := ⟨s.inner.row.reverse :: s.inner.branches, []⟩ }

/-- Closes the innermost group. -/
def closeGroup? (s : State) : Option State :=
  match s.outer with
  | [] => none
  | g :: outer =>
    let branches := (s.inner.row.reverse :: s.inner.branches).reverse
    some (State.push ⟨g, outer⟩ (.group branches))

end State

/-- Reads the ranges of a class up to its closing bracket; `ranges` holds those read so far, the last
    one first.  A bracket or a dash in the first place stands for itself, and so does a dash in the
    last place.  After a dash, the next character becomes the end of the last range. -/
def classRanges (first inRange : Bool) (ranges : List (Char × Char)) :
    Text → Except Fault (List (Char × Char) × Text)
  | [] => .error .unclosedClass
  | c :: rest =>
    if c = ']' ∧ !first then
      .ok ((if inRange then ('-', '-') :: ranges else ranges).reverse, rest)
    else if c = '-' ∧ !first ∧ !inRange then classRanges false true ranges rest
    else if inRange then
      match ranges with
      | (low, _) :: others =>
        if c < low then .error (.invalidRange low c)
        else classRanges false false ((low, c) :: others) rest
      | [] => classRanges false false [(c, c)] rest
    else classRanges false false ((c, c) :: ranges) rest

/-- What a double star adds, and the text after it.  `before` is the character before it. -/
def doubleStar (s : State) (before : Option Char) (rest : Text) : State × Option Char × Text :=
  let plain := ((s.push .anyBytes).push .anyBytes, some '*', rest)
  if s.inner.row.isEmpty then
    match rest with
    | [] => (s.push .leading, some '*', [])
    | c :: after => if c = '/' then (s.push .leading, some '/', after) else plain
  else if before ≠ some '/' ∧ !(s.inGroup && (before == some ',' || before == some '\x7b')) then plain
  else
    match rest with
    | [] => (s.replaceLast .trailing, some '*', [])
    | c :: after =>
      if s.inGroup ∧ (c = ',' ∨ c = '\x7d') then (s.replaceLast .trailing, some '*', c :: after)
      else if c = '/' then (s.replaceLast .between, some '/', after)
      else plain

/-- Reads a pattern from some state on.  Every step takes at least one character, so `fuel` is at
    most the length of the text and one more. -/
def parseFrom : (fuel : Nat) → State → (before : Option Char) → Text → Except Fault (List Token)
  | 0, s, _, _ => .ok s.inner.row.reverse
  | _ + 1, s, _, [] => if s.inGroup then .error .unclosedGroup else .ok s.inner.row.reverse
  | fuel + 1, s, before, c :: rest =>
    if c = '?' then parseFrom fuel (s.push .anyByte) (some c) rest
    else if c = '*' then
      match rest with
      | '*' :: rest =>
        let (s, before, rest) := doubleStar s before rest
        parseFrom fuel s before rest
      | rest => parseFrom fuel (s.push .anyBytes) (some c) rest
    else if c = '[' then
      let (negated, rest) := match rest with
        | '!' :: rest => (true, rest)
        | '^' :: rest => (true, rest)
        | rest => (false, rest)
      match classRanges true false [] rest with
      | .error e => .error e
      | .ok (ranges, rest) => parseFrom fuel (s.push (.oneOf negated ranges)) (some ']') rest
    else if c = '\x7b' then parseFrom fuel s.openGroup (some c) rest
    else if c = '\x7d' then
      match s.closeGroup? with
      | none => .error .unopenedGroup
      | some s => parseFrom fuel s (some c) rest
    else if c = ',' ∧ s.inGroup then parseFrom fuel s.nextBranch (some c) rest
    else if c = '\\' then
      match rest with
      | [] => .error .danglingEscape
      | e :: rest => parseFrom fuel (s.push (.literal e)) (some e) rest
    else parseFrom fuel (s.push (.literal c)) (some c) rest

/-- Reads a pattern. -/
def parse (pattern : Text) : Except Fault Glob :=
  (parseFrom (pattern.length + 1) .empty none pattern).map Glob.mk

end Glob

end OrderOfGrowth
