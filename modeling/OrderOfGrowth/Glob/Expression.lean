import OrderOfGrowth.Glob.Plan

/-! # Expressions — globs as regular expressions over bytes

    A glob that has to be gone through token by token stands for a regular expression.  It is refused
    if the operators of the expression lie too deep inside each other.  Classes, groups, choices,
    repetitions and rows of more than one part count as operators. -/

namespace OrderOfGrowth.Glob

/-! ## Text -/

/-- The characters with a meaning of their own in an expression. -/
def metaCharacters : Text := "\\.+*?()|[]\x7b\x7d^$#&-~".toList

/-- One byte in an expression. -/
def byteExpression (b : UInt8) : Text :=
  if b < 0x80 then
    let c := Char.ofNat b.toNat
    if metaCharacters.contains c then ['\\', c] else [c]
  else ['\\', 'x'] ++ Nat.toDigits 16 b.toNat

/-- One character in an expression. -/
def charExpression (c : Char) : Text := (String.utf8EncodeChar c).flatMap byteExpression

/-- One range of a class in an expression. -/
def rangeExpression (first last : Char) : Text :=
  if first = last then charExpression first else charExpression first ++ '-' :: charExpression last

mutual

/-- The text of a token. -/
def Token.expression : Token → Text
  | .literal c => charExpression c
  | .anyByte => ['.']
  | .anyBytes => ".*".toList
  | .leading => "(?:/?|.*/)".toList
  | .trailing => "/.*".toList
  | .between => "(?:/|/.*/)".toList
  | .oneOf negated ranges =>
    '[' :: (if negated then ['^'] else []) ++
      ranges.flatMap (fun (first, last) => rangeExpression first last) ++ [']']
  | .group branches =>
    match branchExpressions branches with
    | [] => []
    | parts => "(?:".toList ++ ['|'].intercalate parts ++ [')']

/-- The text of a row. -/
def rowExpression : List Token → Text
  | [] => []
  | t :: ts => t.expression ++ rowExpression ts

/-- The texts of the rows that have one. -/
def branchExpressions : List (List Token) → List Text
  | [] => []
  | row :: rows =>
    match rowExpression row with
    | [] => branchExpressions rows
    | text => text :: branchExpressions rows

end

/-- The expression of a glob. -/
def expression (g : Glob) : Text := "(?-u)^".toList ++ rowExpression g.row ++ ['$']

/-! ## Depth -/

/-- The outside of an expression: how many parts stand side by side in it, and how many operators
    lie inside each other in the deepest of them. -/
structure Shape where
  parts : Nat
  depth : Nat

namespace Shape

/-- Parts side by side. -/
def beside (s t : Shape) : Shape := ⟨s.parts + t.parts, max s.depth t.depth⟩

/-- The depth with the operator that joins the parts, if there are several. -/
def joined (s : Shape) : Nat := if s.parts ≤ 1 then s.depth else s.depth + 1

/-- The parts joined to one, if there are any. -/
def collected (s : Shape) : Shape := if s.parts = 0 then s else ⟨1, s.joined⟩

/-- The parts joined to one and put between brackets, if there are any. -/
def enclosed (s : Shape) : Shape := if s.parts = 0 then s else ⟨1, s.joined + 1⟩

end Shape

mutual

/-- The shape of a token. -/
def Token.shape : Token → Shape
  | .literal c => ⟨(String.utf8EncodeChar c).length, 0⟩
  | .anyByte => ⟨1, 0⟩
  | .anyBytes => ⟨1, 1⟩
  | .leading => ⟨1, 4⟩
  | .trailing => ⟨2, 1⟩
  | .between => ⟨1, 4⟩
  | .oneOf _ ranges => ⟨1, if (classBytes ranges).length ≤ 1 then 1 else 2⟩
  | .group branches => (branchShapes branches).enclosed

/-- The shape of a row. -/
def rowShape : List Token → Shape
  | [] => ⟨0, 0⟩
  | t :: ts => t.shape.beside (rowShape ts)

/-- The shape of a choice between rows, each being one part unless it is empty. -/
def branchShapes : List (List Token) → Shape
  | [] => ⟨0, 0⟩
  | row :: rows => (rowShape row).collected.beside (branchShapes rows)

end

/-- The greatest depth of an expression that is not refused. -/
def greatestDepth : Nat := 250

/-- Is the expression of the glob refused?  Its two ends always stand beside the row. -/
def isTooDeep (g : Glob) : Bool := greatestDepth < (rowShape g.row).depth + 1

end OrderOfGrowth.Glob
