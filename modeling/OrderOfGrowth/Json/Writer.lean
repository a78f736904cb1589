import OrderOfGrowth.Json.Error

/-! # JSON texts of values

    The compact form has no blanks.  The indented form puts every item and member on a line of its
    own, two spaces further in than the bracket that holds it, and writes an empty list or object as
    a bare pair of brackets.

    Both are written in front of the text that follows the value, so that a reader can be held
    against them bracket by bracket, and deep nesting is not copied level by level. -/

namespace OrderOfGrowth.Json

/-- One character of a string: quote, backslash and controls are escaped, nothing else. -/
def escapedChar (c : Char) : Text :=
  if c = '"' then ['\\', '"']
  else if c = '\\' then ['\\', '\\']
  else if c = '\x08' then ['\\', 'b']
  else if c = '\x0c' then ['\\', 'f']
  else if c = '\n' then ['\\', 'n']
  else if c = '\r' then ['\\', 'r']
  else if c = '\t' then ['\\', 't']
  else if c.toNat < 0x20 then
    ['\\', 'u', '0', '0', Nat.digitChar (c.toNat / 16), Nat.digitChar (c.toNat % 16)]
  else [c]

/-- A text as a JSON string. -/
def string (t : Text) : Text := '"' :: (t.flatMap escapedChar ++ ['"'])

/-- A line end and two spaces for every level. -/
def newline (level : Nat) : Text := '\n' :: List.replicate (2 * level) ' '

namespace Value

/-- The text of a truth value. -/
def writeBool (b : Bool) : Text := (if b then "true" else "false").toList

mutual

/-- The compact form, in front of a text. -/
def compactOnto : Value → (rest : Text) → Text
  | null, rest => "null".toList ++ rest
  | bool b, rest => writeBool b ++ rest
  | number n, rest => n.write ++ rest
  | text t, rest => string t ++ rest
  | list [], rest => '[' :: ']' :: rest
  | list (v :: vs), rest => '[' :: compactOnto v (compactItems vs (']' :: rest))
  | object [], rest => '\x7b' :: '\x7d' :: rest
  | object ((k, v) :: ms), rest =>
    '\x7b' :: (string k ++ ':' :: compactOnto v (compactMembers ms ('\x7d' :: rest)))

/-- Further items, each after a comma, in front of a text. -/
def compactItems : List Value → (rest : Text) → Text
  | [], rest => rest
  | v :: vs, rest => ',' :: compactOnto v (compactItems vs rest)

/-- Further members, each after a comma, in front of a text. -/
def compactMembers : List (Text × Value) → (rest : Text) → Text
  | [], rest => rest
  | (k, v) :: ms, rest => ',' :: (string k ++ ':' :: compactOnto v (compactMembers ms rest))

end

/-- The compact form. -/
def compact (v : Value) : Text := compactOnto v []

mutual

/-- The indented form of a value that starts at the given level, in front of a text. -/
def indentedOnto (level : Nat) : Value → (rest : Text) → Text
  | null, rest => "null".toList ++ rest
  | bool b, rest => writeBool b ++ rest
  | number n, rest => n.write ++ rest
  | text t, rest => string t ++ rest
  | list [], rest => '[' :: ']' :: rest
  | list (v :: vs), rest =>
    '[' :: (newline (level + 1) ++
      indentedOnto (level + 1) v (indentedItems (level + 1) vs (newline level ++ ']' :: rest)))
  | object [], rest => '\x7b' :: '\x7d' :: rest
  | object ((k, v) :: ms), rest =>
    '\x7b' :: (newline (level + 1) ++ (string k ++ ':' :: ' ' ::
      indentedOnto (level + 1) v (indentedMembers (level + 1) ms (newline level ++ '\x7d' :: rest))))

/-- Further items, each on a new line after a comma, in front of a text. -/
def indentedItems (level : Nat) : List Value → (rest : Text) → Text
  | [], rest => rest
  | v :: vs, rest => ',' :: (newline level ++ indentedOnto level v (indentedItems level vs rest))

/-- Further members, each on a new line after a comma, in front of a text. -/
def indentedMembers (level : Nat) : List (Text × Value) → (rest : Text) → Text
  | [], rest => rest
  | (k, v) :: ms, rest =>
    ',' :: (newline level ++ (string k ++ ':' :: ' ' ::
      indentedOnto level v (indentedMembers level ms rest)))

end

/-- The indented form, without a final line end. -/
def indented (v : Value) : Text := indentedOnto 0 v []

end Value

end OrderOfGrowth.Json
