import OrderOfGrowth.Text.Basic

/-! # Paths — rows of bytes, and how they are printed

    A path is what the system takes for one: any bytes, with slashes between the names.  It need not
    be a text.  Where it is printed, its bytes are read as UTF-8, and one replacement character
    stands for every row of bytes that starts a character and does not end it, or that cannot start
    one. -/

namespace OrderOfGrowth

/-- The name of something in a directory. -/
abbrev Name := Bytes

/-- A path. -/
abbrev Path := Bytes

/-- The slash. -/
def slash : UInt8 := 47

/-- The dot. -/
def dot : UInt8 := 46

namespace Path

/-- A path with one more name at its end. -/
def join (path : Path) (name : Name) : Path :=
  match path.getLast? with
  | none => name
  | some b => if b = slash then path ++ name else path ++ slash :: name

/-! ## Printing -/

/-- What the first byte of a character leaves open: how many bytes follow it, and the bounds of the
    next one. -/
def opened? (b : UInt8) : Option (Nat × UInt8 × UInt8) :=
  if 0xC2 ≤ b && b ≤ 0xDF then some (1, 0x80, 0xBF)
  else if b == 0xE0 then some (2, 0xA0, 0xBF)
  else if b == 0xED then some (2, 0x80, 0x9F)
  else if 0xE1 ≤ b && b ≤ 0xEF then some (2, 0x80, 0xBF)
  else if b == 0xF0 then some (3, 0x90, 0xBF)
  else if 0xF1 ≤ b && b ≤ 0xF3 then some (3, 0x80, 0xBF)
  else if b == 0xF4 then some (3, 0x80, 0x8F)
  else none

/-- How many of the bytes go on with a character of which some bytes are missing, the next of them
    within the bounds. -/
def goingOn : (missing : Nat) → (low high : UInt8) → Bytes → Nat
  | missing + 1, low, high, b :: bs =>
    if low ≤ b && b ≤ high then goingOn missing 0x80 0xBF bs + 1 else 0
  | _, _, _, _ => 0

/-- The number of bytes behind the first one that belong to the same broken character. -/
def brokenTail (b : UInt8) (bs : Bytes) : Nat :=
  match opened? b with
  | some (missing, low, high) => goingOn missing low high bs
  | none => 0

/-- The character that stands at the start of the bytes. -/
def firstChar? (bs : Bytes) : Option Char := (bs.take 4).toByteArray.utf8DecodeChar? 0

/-- Prints bytes.  The first argument counts those that belong to a character already printed. -/
def shownFrom : (done : Nat) → Bytes → Text
  | _, [] => []
  | done + 1, _ :: bs => shownFrom done bs
  | 0, b :: bs =>
    match firstChar? (b :: bs) with
    | some c => c :: shownFrom (c.utf8Size - 1) bs
    | none => '\uFFFD' :: shownFrom (brokenTail b bs) bs

/-- A path as it is printed. -/
def shown (path : Path) : Text := shownFrom 0 path

end Path

end OrderOfGrowth
