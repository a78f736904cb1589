import OrderOfGrowth.Json.Value
import OrderOfGrowth.Text.Quoted
import OrderOfGrowth.Decimal.Layout

/-! # JSON errors — why a text or a value was refused

    A text can end too early, be no JSON, or hold something else than was asked for.  The causes are
    kept apart from their wording, which is all in the `message` functions. -/

namespace OrderOfGrowth.Json

/-- What was being read when the text ended. -/
inductive Cutoff where
  | value
  | list
  | object
  | string
deriving DecidableEq

/-- A place at which the text is no JSON. -/
inductive Malformed where
  | expectedValue
  | expectedColon
  | expectedListEnd
  | expectedObjectEnd
  | keyNotText
  | trailingComma
  | trailingCharacters
  | expectedWord
  | invalidNumber
  | numberOutOfRange
  | invalidEscape
  | loneSurrogate
  | missingSurrogate
  | controlCharacter
deriving DecidableEq

/-- What was found in the place of something else. -/
inductive Found where
  | null
  | bool (b : Bool)
  | number (n : Number)
  | text (t : Text)
  | list
  | object

/-- What was asked for. -/
inductive Wanted where
  | text
  | list
  | bool
  | size
  | sample
  | record (name : String)
deriving DecidableEq

/-- A value that is not what was asked for. -/
inductive Mismatch where
  | wrongType (found : Found) (wanted : Wanted)
  | negativeSize (n : Int)
  | missingField (name : Text)
  | duplicateField (name : Text)
  /-- A list in the place of a record has too few items. -/
  | tooShort (length : Nat) (record : String) (fields : Nat)
  /-- A list in the place of a record has too many items. -/
  | tooLong (length : Nat)

/-- Why a text was refused. -/
inductive Error where
  | cutoff (c : Cutoff)
  | malformed (m : Malformed)
  | mismatch (m : Mismatch)

/-- How doubles are written. -/
def numberLayout : DecimalLayout := .standard

/-- The written form of a number; a number that is not finite is null. -/
def Number.write : Number → Text
  | .natural n => Text.ofNat n.toNat
  | .negative n => '-' :: Text.ofNat n.natAbs
  | .real x => (numberLayout.writeFloat? x).getD "null".toList

/-- The wording of an early end. -/
def Cutoff.message : Cutoff → Text
  | .value => "EOF while parsing a value".toList
  | .list => "EOF while parsing a list".toList
  | .object => "EOF while parsing an object".toList
  | .string => "EOF while parsing a string".toList

/-- The wording for text that is no JSON. -/
def Malformed.message : Malformed → Text
  | .expectedValue => "expected value".toList
  | .expectedColon => "expected `:`".toList
  | .expectedListEnd => "expected `,` or `]`".toList
  | .expectedObjectEnd => "expected `,` or `\x7d`".toList
  | .keyNotText => "key must be a string".toList
  | .trailingComma => "trailing comma".toList
  | .trailingCharacters => "trailing characters".toList
  | .expectedWord => "expected ident".toList
  | .invalidNumber => "invalid number".toList
  | .numberOutOfRange => "number out of range".toList
  | .invalidEscape => "invalid escape".toList
  | .loneSurrogate => "lone leading surrogate in hex escape".toList
  | .missingSurrogate => "unexpected end of hex escape".toList
  | .controlCharacter => "control character (\\u0000-\\u001F) found while parsing a string".toList

/-- The text between backquotes. -/
def backquoted (t : Text) : Text := '`' :: t ++ ['`']

/-- The wording for what was found. -/
def Found.message : Found → Text
  | .null => "null".toList
  | .bool b => "boolean ".toList ++ backquoted (if b then "true" else "false").toList
  | .number (.real x) => "floating point ".toList ++ backquoted (Number.real x).write
  | .number n => "integer ".toList ++ backquoted n.write
  | .text t => "string ".toList ++ t.quoted
  | .list => "sequence".toList
  | .object => "map".toList

/-- The wording for what was asked for. -/
def Wanted.message : Wanted → Text
  | .text => "a string".toList
  | .list => "a sequence".toList
  | .bool => "a boolean".toList
  | .size => "u64".toList
  | .sample => "f64".toList
  | .record name => "struct ".toList ++ name.toList

/-- The wording for a value that is not what was asked for. -/
def Mismatch.message : Mismatch → Text
  | .wrongType found wanted =>
    "invalid type: ".toList ++ found.message ++ ", expected ".toList ++ wanted.message
  | .negativeSize n =>
    "invalid value: integer ".toList ++ backquoted (Number.negative n).write ++
      ", expected ".toList ++ Wanted.size.message
  | .missingField name => "missing field ".toList ++ backquoted name
  | .duplicateField name => "duplicate field ".toList ++ backquoted name
  | .tooShort length record fields =>
    "invalid length ".toList ++ Text.ofNat length ++ ", expected ".toList ++
      (Wanted.record record).message ++ " with ".toList ++ Text.ofNat fields ++ " elements".toList
  | .tooLong length =>
    "invalid length ".toList ++ Text.ofNat length ++ ", expected fewer elements in array".toList

/-- The wording of an error. -/
def Error.message : Error → Text
  | .cutoff c => c.message
  | .malformed m => m.message
  | .mismatch m => m.message

end OrderOfGrowth.Json
