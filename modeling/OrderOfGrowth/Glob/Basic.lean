import OrderOfGrowth.FileTree.Path

/-! # Globs — patterns for paths

    A pattern is a row of tokens, and a path is accepted as a whole, byte by byte; the characters of a
    pattern stand for their bytes in UTF-8.  Stars, question marks and classes accept the slash too.
    The three double-star tokens bring the slashes at their sides with them. -/

namespace OrderOfGrowth

namespace Glob

/-- A part of a pattern. -/
inductive Token where
  /-- The bytes of one character. -/
  | literal (c : Char)
  /-- Any byte. -/
  | anyByte
  /-- Any bytes. -/
  | anyBytes
  /-- Nothing, or everything up to and with some slash. -/
  | leading
  /-- A slash and anything after it. -/
  | trailing
  /-- A slash, or two slashes with anything between them. -/
  | between
  /-- A byte that belongs to the ranges, or does not. -/
  | oneOf (negated : Bool) (ranges : List (Char × Char))
  /-- One of some rows of tokens. -/
  | group (branches : List (List Token))

/-- The byte ranges of a range of characters.  A character of several bytes brings each of them, and
    the range proper goes from the last byte of its first end to the first byte of its last end. -/
def byteRanges (first last : Char) : List (UInt8 × UInt8) :=
  let low := String.utf8EncodeChar first
  let high := String.utf8EncodeChar last
  if first = last then low.map fun b => (b, b)
  else
    low.dropLast.map (fun b => (b, b)) ++
      (low.getLast?.toList.zip high.head?.toList) ++ high.tail.map fun b => (b, b)

/-- The byte ranges of a class. -/
def classBytes (ranges : List (Char × Char)) : List (UInt8 × UInt8) :=
  ranges.flatMap fun (first, last) => byteRanges first last

/-- Does the byte belong to one of the ranges? -/
def inRanges (ranges : List (UInt8 × UInt8)) (b : UInt8) : Bool :=
  ranges.any fun (low, high) => low ≤ b && b ≤ high

/-- Does a class accept the byte? -/
def classAccepts (negated : Bool) (ranges : List (Char × Char)) (b : UInt8) : Bool :=
  inRanges (classBytes ranges) b != negated

mutual

/-- Does the token stand for no condition at all, being a group without a proper branch? -/
def Token.isVoid : Token → Bool
  | .group branches => areVoid branches
  | _ => false

/-- Do all tokens of the row stand for no condition? -/
def isVoidRow : List Token → Bool
  | [] => true
  | t :: ts => t.isVoid && isVoidRow ts

/-- Do all rows stand for no condition? -/
def areVoid : List (List Token) → Bool
  | [] => true
  | row :: rows => isVoidRow row && areVoid rows

end

end Glob

/-- A pattern for paths. -/
structure Glob where
  /-- The tokens as they were read. -/
  tokens : List Glob.Token

/-- The tokens that a path has to go by: a lone double star stands for any bytes. -/
def Glob.row (g : Glob) : List Glob.Token :=
  match g.tokens with
  | [.leading] => [.anyBytes]
  | tokens => tokens

end OrderOfGrowth
