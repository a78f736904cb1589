import OrderOfGrowth.Text.Blank

/-! # Idioms — what the raw text shows, without its nesting -/

namespace OrderOfGrowth

/-- Which idioms the text shows. -/
structure Idioms where
  createsArray : Bool
  createsMap : Bool
  /-- Is the name of the first function mentioned again? -/
  recursive : Bool
deriving DecidableEq

namespace Idioms

/-- Does the text hold `first`, then any blanks, then `last`? -/
def hasPair (first last : Char) : Text → Bool
  | [] => false
  | c :: cs => (c == first && (cs.dropWhile isBlank).head? == some last) || hasPair first last cs

/-- Does the text create an array? -/
def arrayIn (source : Text) : Bool :=
  Text.has "new Array".toList source || Text.has "Array(".toList source || hasPair '=' '[' source

/-- Does the text create a map, a set or an empty object? -/
def mapIn (source : Text) : Bool :=
  Text.has "new Map".toList source || Text.has "new Set".toList source ||
    hasPair '\x7b' '\x7d' source

/-- The presumed name of the first function: what stands between the first function keyword and the
    next parenthesis, unless that is blank. -/
def firstFunctionName? (source : Text) : Option Text :=
  (Text.after? "function".toList source).bind fun rest =>
    let name := (rest.upTo '(').trim
    if name.isEmpty then none else some name

/-- Does the name of the first function occur a second time? -/
def recursionIn (source : Text) : Bool :=
  match firstFunctionName? source with
  | none => false
  | some name => 1 < Text.count name source

/-- The idioms of a source text. -/
def ofSource (source : Text) : Idioms := ⟨arrayIn source, mapIn source, recursionIn source⟩

end Idioms

end OrderOfGrowth
