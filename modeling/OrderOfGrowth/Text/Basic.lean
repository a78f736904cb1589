/-! # Texts — lists of characters, and how to search them

    Everything the library reads and writes is a `Text`.  The searches below are the few that the
    rest needs: a text inside another, the first occurrence, and the number of occurrences that do
    not overlap, counted greedily from the left.  Texts are ordered by their code points. -/

namespace OrderOfGrowth

/-- A text is the list of its characters. -/
abbrev Text := List Char

/-- A row of bytes. -/
abbrev Bytes := List UInt8

namespace Text

/-- A number in decimal digits. -/
def ofNat (n : Nat) : Text := Nat.toDigits 10 n

/-- Does `needle` occur somewhere in the text?  The empty text occurs everywhere. -/
def has (needle : Text) : Text → Bool
  | [] => needle.isEmpty
  | c :: cs => needle.isPrefixOf (c :: cs) || has needle cs

/-- The text after the first occurrence of `needle`, if there is one. -/
def after? (needle : Text) : Text → Option Text
  | [] => if needle.isEmpty then some [] else none
  | c :: cs =>
    if needle.isPrefixOf (c :: cs) then some ((c :: cs).drop needle.length) else after? needle cs

/-- Occurrences of `needle`, the leftmost first and each starting after the end of the one before.
    The first argument counts the characters of the last occurrence that are still to be passed. -/
def countFrom (needle : Text) : Nat → Nat → Text → Nat
  | _, found, [] => found
  | skip + 1, found, _ :: cs => countFrom needle skip found cs
  | 0, found, c :: cs =>
    if needle.isPrefixOf (c :: cs) then countFrom needle (needle.length - 1) (found + 1) cs
    else countFrom needle 0 found cs

/-- The number of non-overlapping occurrences of a non-empty `needle`, taken greedily from the
    left. -/
def count (needle text : Text) : Nat := countFrom needle 0 0 text

/-- The part before the first `c`, or the whole text when it has none. -/
def upTo (c : Char) (t : Text) : Text := t.takeWhile (· != c)

/-- The bytes of a text in UTF-8. -/
def bytes (t : Text) : Bytes := t.flatMap String.utf8EncodeChar

/-- Is the first text not after the second, character by character? -/
def le : Text → Text → Bool
  | [], _ => true
  | _ :: _, [] => false
  | a :: as, b :: bs => if a = b then le as bs else decide (a.toNat < b.toNat)

/-- The lines of a text: the parts between its line feeds, so a final line feed leaves an empty
    last line. -/
def lines (t : Text) : List Text := t.splitOn '\n'

end Text

end OrderOfGrowth
