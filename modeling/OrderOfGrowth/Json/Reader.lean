import OrderOfGrowth.Json.Scanner

/-! # JSON reading — lists, objects and values of any kind

    A text is read in one pass, so the first problem wins.  Values that nobody asked for are passed
    over with a stack of open brackets, so their nesting costs no depth of recursion. -/

namespace OrderOfGrowth.Json

/-! ## The places between values -/

/-- What comes next between brackets. -/
inductive Next where
  /-- One more item, which starts here; of a key, from behind its opening quote. -/
  | more (t : Text)
  /-- The closing bracket, and the text behind it. -/
  | closed (rest : Text)

/-- What comes next in an open list. -/
def nextItem (first : Bool) (t : Text) : Except Error Next :=
  match skipBlanks t with
  | [] => cutoff .list
  | c :: rest =>
    if c = ']' then .ok (.closed rest)
    else if first then .ok (.more (c :: rest))
    else if c = ',' then
      match skipBlanks rest with
      | [] => cutoff .value
      | c :: rest => if c = ']' then malformed .trailingComma else .ok (.more (c :: rest))
    else malformed .expectedListEnd

/-- Passes over the closing bracket of a list in which nothing more is wanted. -/
def endList (t : Text) : Except Error Text :=
  match skipBlanks t with
  | [] => cutoff .list
  | c :: rest =>
    if c = ']' then .ok rest
    else if c = ',' then
      match skipBlanks rest with
      | ']' :: _ => malformed .trailingComma
      | _ => malformed .trailingCharacters
    else malformed .trailingCharacters

/-- What comes next in an open object. -/
def nextKey (first : Bool) (t : Text) : Except Error Next :=
  match skipBlanks t with
  | [] => cutoff .object
  | c :: rest =>
    if c = '\x7d' then .ok (.closed rest)
    else if first then
      if c = '"' then .ok (.more rest) else malformed .keyNotText
    else if c = ',' then
      match skipBlanks rest with
      | [] => cutoff .value
      | c :: rest =>
        if c = '"' then .ok (.more rest)
        else if c = '\x7d' then malformed .trailingComma
        else malformed .keyNotText
    else malformed .expectedObjectEnd

/-- Passes over the colon behind a key. -/
def colon (t : Text) : Except Error Text :=
  match skipBlanks t with
  | [] => cutoff .object
  | c :: rest => if c = ':' then .ok rest else malformed .expectedColon

/-! ## Lists -/

/-- The items of a list that is open; `done` holds those read so far, the last one first.  Every
    item takes at least one character, so `fuel` is at most the length of the text and one more. -/
def itemsFrom {α : Type} (item : Reader α) :
    (fuel : Nat) → (first : Bool) → List α → Text → Except Error (List α × Text)
  | 0, _, _, _ => cutoff .list
  | fuel + 1, first, done, t => do
    match ← nextItem first t with
    | .closed rest => return (done.reverse, rest)
    | .more t =>
      let (a, rest) ← item t
      itemsFrom item fuel false (a :: done) rest

/-- Reads the items of a list from behind its opening bracket. -/
def items {α : Type} (item : Reader α) : Reader (List α) := fun t =>
  itemsFrom item (t.length + 1) true [] t

/-! ## Values that nobody asked for -/

/-- A bracket that is open. -/
inductive Bracket where
  | list
  | object
deriving DecidableEq

/-- Where a pass over a value stands. -/
inductive Place where
  | value
  | key
  | afterValue
deriving DecidableEq

/-- Passes over a value without parts, which starts with `c`. -/
def skipScalar (c : Char) (rest : Text) : Except Error Text :=
  if c = 'n' then word "ull".toList rest
  else if c = 't' then word "rue".toList rest
  else if c = 'f' then word "alse".toList rest
  else if c = '-' ∨ c.isDigit then skipNumber (c :: rest)
  else if c = '"' then skipString rest
  else malformed .expectedValue

/-- Passes over the value that starts here and closes all open brackets.  Every step takes at least
    one character, so `fuel` is at most the length of the text and one more. -/
def skipFrom : (fuel : Nat) → Place → List Bracket → Text → Except Error Text
  | 0, _, _, _ => cutoff .value
  | fuel + 1, .value, stack, t =>
    match skipBlanks t with
    | [] => cutoff .value
    | c :: rest =>
      if c = '[' then
        match skipBlanks rest with
        | [] => cutoff .list
        | d :: after =>
          if d = ']' then skipFrom fuel .afterValue stack after
          else skipFrom fuel .value (.list :: stack) (d :: after)
      else if c = '\x7b' then
        match skipBlanks rest with
        | [] => cutoff .object
        | d :: after =>
          if d = '\x7d' then skipFrom fuel .afterValue stack after
          else skipFrom fuel .key (.object :: stack) (d :: after)
      else do
        let rest ← skipScalar c rest
        skipFrom fuel .afterValue stack rest
  | fuel + 1, .key, stack, t =>
    match skipBlanks t with
    | [] => cutoff .object
    | c :: rest =>
      if c = '"' then do
        let rest ← skipString rest
        let rest ← colon rest
        skipFrom fuel .value stack rest
      else malformed .keyNotText
  | _ + 1, .afterValue, [], t => .ok t
  | fuel + 1, .afterValue, .list :: stack, t =>
    match skipBlanks t with
    | [] => cutoff .list
    | c :: rest =>
      if c = ',' then skipFrom fuel .value (.list :: stack) rest
      else if c = ']' then skipFrom fuel .afterValue stack rest
      else malformed .expectedListEnd
  | fuel + 1, .afterValue, .object :: stack, t =>
    match skipBlanks t with
    | [] => cutoff .object
    | c :: rest =>
      if c = ',' then skipFrom fuel .key (.object :: stack) rest
      else if c = '\x7d' then skipFrom fuel .afterValue stack rest
      else malformed .expectedObjectEnd

/-- Passes over any value. -/
def skipValue (t : Text) : Except Error Text := skipFrom (t.length + 1) .value [] t

/-! ## Values of any kind -/

/-- The members of an object that is open; `done` holds those read so far, the last one first. -/
def membersFrom (value : Reader Value) :
    (fuel : Nat) → (first : Bool) → List (Text × Value) → Text →
      Except Error (List (Text × Value) × Text)
  | 0, _, _, _ => cutoff .object
  | fuel + 1, first, done, t => do
    match ← nextKey first t with
    | .closed rest => return (done.reverse, rest)
    | .more t =>
      let (key, t) ← stringFrom [] t
      let t ← colon t
      let (v, rest) ← value t
      membersFrom value fuel false ((key, v) :: done) rest

/-- Reads a value of any kind, nested less deep than `fuel`. -/
def valueWithin : (fuel : Nat) → Text → Except Error (Value × Text)
  | 0, _ => cutoff .value
  | fuel + 1, t =>
    match skipBlanks t with
    | [] => cutoff .value
    | c :: rest =>
      if c = 'n' then do return (.null, ← word "ull".toList rest)
      else if c = 't' then do return (.bool true, ← word "rue".toList rest)
      else if c = 'f' then do return (.bool false, ← word "alse".toList rest)
      else if c = '-' ∨ c.isDigit then do
        let (n, rest) ← number (c :: rest)
        return (.number n, rest)
      else if c = '"' then do
        let (s, rest) ← stringFrom [] rest
        return (.text s, rest)
      else if c = '[' then do
        let (vs, rest) ← items (valueWithin fuel) rest
        return (.list vs, rest)
      else if c = '\x7b' then do
        let (ms, rest) ← membersFrom (valueWithin fuel) (rest.length + 1) true [] rest
        return (.object ms, rest)
      else malformed .expectedValue

/-- Nothing but blanks may follow. -/
def endOfText (t : Text) : Except Error Unit :=
  match skipBlanks t with
  | [] => .ok ()
  | _ :: _ => malformed .trailingCharacters

/-- Reads a whole text as a value. -/
def Value.ofText (t : Text) : Except Error Value := do
  let (v, rest) ← valueWithin (t.length + 1) t
  endOfText rest
  return v

end OrderOfGrowth.Json
