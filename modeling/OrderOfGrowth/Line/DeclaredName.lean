import OrderOfGrowth.Text.Blank
import OrderOfGrowth.Text.Alphanumeric

/-! # Declared names — the name between a function keyword and its parameters -/

namespace OrderOfGrowth

/-- Can the character stand in the name of a function? -/
def isNameChar (c : Char) : Bool := isAlphanumeric c || c == '_' || c == '$'

/-- A name is a non-empty run of name characters that does not start with an ASCII digit. -/
def isName : Text → Bool
  | [] => false
  | c :: cs => (c :: cs).all isNameChar && !c.isDigit

/-- The name declared by what follows a function keyword: the part before the first parenthesis,
    less blanks and the stars of a generator, if that is a name. -/
def declaredName? (rest : Text) : Option Text :=
  let name := Text.trim ((rest.upTo '(').trim.dropWhile (· == '*'))
  if isName name then some name else none

end OrderOfGrowth
