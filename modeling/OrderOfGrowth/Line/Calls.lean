import OrderOfGrowth.Text.Blank
import OrderOfGrowth.Text.WordChar

/-! # Calls — names followed by an opening parenthesis

    A call is an ASCII identifier that starts at a word boundary and is followed, after any blanks,
    by an opening parenthesis.  Calls are found from left to right, and each search goes on after
    the parenthesis of the call before. -/

namespace OrderOfGrowth

/-- Can the character start the name of a call? -/
def isCallStart (c : Char) : Bool := c.isAlpha || c == '_'

/-- Can the character stand in the name of a call? -/
def isCallChar (c : Char) : Bool := c.isAlphanum || c == '_'

/-- The words that are never calls, though a parenthesis may follow them. -/
def nonCallWords : List Text :=
  ["if", "for", "while", "switch", "catch", "function", "return", "typeof", "await", "do",
    "else"].map (·.toList)

/-- A call that starts with the first character of the text: its name, and the number of characters
    that follow the first one up to and with the parenthesis. -/
def callHere? : Text → Option (Text × Nat)
  | [] => none
  | c :: cs =>
    if isCallStart c then
      let tail := cs.takeWhile isCallChar
      let rest := cs.dropWhile isCallChar
      match rest.dropWhile isBlank with
      | '(' :: _ => some (c :: tail, tail.length + (rest.takeWhile isBlank).length + 1)
      | _ => none
    else none

/-- The names called in a text.  `skip` characters belong to the call before, `inWord` says whether
    the last character was a word character, and the names found so far are in reverse order. -/
def callsFrom : (skip : Nat) → (inWord : Bool) → List Text → Text → List Text
  | _, _, found, [] => found.reverse
  | skip + 1, _, found, c :: cs => callsFrom skip (isWordChar c) found cs
  | 0, true, found, c :: cs => callsFrom 0 (isWordChar c) found cs
  | 0, false, found, c :: cs =>
    match callHere? (c :: cs) with
    | some (name, skip) => callsFrom skip (isWordChar c) (name :: found) cs
    | none => callsFrom 0 (isWordChar c) found cs

/-- The names called on a line, in order, less the words that are never calls and the name that the
    line itself declares. -/
def callNames (declared : Option Text) (line : Text) : List Text :=
  ((callsFrom 0 false [] line).filter (!nonCallWords.contains ·)).filter (some · != declared)

end OrderOfGrowth
