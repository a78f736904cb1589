import OrderOfGrowth.Json.Error

/-! # JSON scanning — blanks, words, strings and numbers

    Each scanner takes the text from its first character on and gives back what it read with the text
    that follows, or the first problem that it met.

    * an escape has a scanner of its own, which takes at least one character
      (`length_lt_of_escaped`), so a string is read by recursion on the length of its text;
    * a number is first cut into its parts, and only then given a value, so that a number which
      nobody asked for is checked for its form alone. -/

namespace OrderOfGrowth.Json

/-- A reader gives a value and the rest of the text. -/
abbrev Reader (α : Type) := Text → Except Error (α × Text)

/-- The text is no JSON here. -/
def malformed {α : Type} (m : Malformed) : Except Error α := .error (.malformed m)

/-- The text ends too early. -/
def cutoff {α : Type} (c : Cutoff) : Except Error α := .error (.cutoff c)

/-- The blanks of JSON. -/
def isJsonBlank (c : Char) : Bool := c == ' ' || c == '\n' || c == '\t' || c == '\r'

/-- The text without its leading blanks. -/
def skipBlanks (t : Text) : Text := t.dropWhile isJsonBlank

/-- Passes over the rest of a word such as `null`. -/
def word : (expected : Text) → Text → Except Error Text
  | [], t => .ok t
  | _ :: _, [] => cutoff .value
  | e :: es, c :: cs => if c = e then word es cs else malformed .expectedWord

/-! ## Strings -/

/-- The value of a hexadecimal digit. -/
def hexDigit? (c : Char) : Option Nat :=
  if '0' ≤ c ∧ c ≤ '9' then some (c.toNat - '0'.toNat)
  else if 'a' ≤ c ∧ c ≤ 'f' then some (c.toNat - 'a'.toNat + 10)
  else if 'A' ≤ c ∧ c ≤ 'F' then some (c.toNat - 'A'.toNat + 10)
  else none

/-- The value of four hexadecimal digits. -/
def hexFour? (a b c d : Char) : Option Nat := do
  let a ← hexDigit? a
  let b ← hexDigit? b
  let c ← hexDigit? c
  let d ← hexDigit? d
  return ((a * 16 + b) * 16 + c) * 16 + d

/-- Why the four digits of an escape could not be taken from the text: it is too short for them, by
    its length in UTF-8, or it has other characters there. -/
def badHex {α : Type} (t : Text) : Except Error α :=
  if (Text.bytes (t.take 4)).length < 4 then cutoff .string else malformed .invalidEscape

/-- The character that a letter stands for after a backslash. -/
def escape? (c : Char) : Option Char :=
  if c = '"' then some '"'
  else if c = '\\' then some '\\'
  else if c = '/' then some '/'
  else if c = 'b' then some '\x08'
  else if c = 'f' then some '\x0c'
  else if c = 'n' then some '\n'
  else if c = 'r' then some '\r'
  else if c = 't' then some '\t'
  else none

/-- Does the number start a pair of surrogates? -/
def isLeading (n : Nat) : Bool := 0xD800 ≤ n && n < 0xDC00

/-- Does the number end a pair of surrogates? -/
def isTrailing (n : Nat) : Bool := 0xDC00 ≤ n && n < 0xE000

/-- Reads the four digits of an escape. -/
def hexDigits (t : Text) : Except Error (Nat × Text) :=
  match t with
  | a :: b :: c :: d :: rest =>
    match hexFour? a b c d with
    | some n => .ok (n, rest)
    | none => badHex t
  | _ => badHex t

/-- Reads the escape of a trailing surrogate, which has to stand here. -/
def trailingEscape (t : Text) : Except Error (Nat × Text) :=
  match t with
  | [] => cutoff .string
  | [b] => if b = '\\' then cutoff .string else malformed .missingSurrogate
  | b :: u :: rest =>
    if b = '\\' ∧ u = 'u' then
      match hexDigits rest with
      | .ok (n, rest) => if isTrailing n then .ok (n, rest) else malformed .loneSurrogate
      | .error e => .error e
    else malformed .missingSurrogate

/-- Reads an escape by number from behind its `u`.  A leading surrogate has to be followed by the
    escape of a trailing one, and the two stand for one character. -/
def codeEscape (t : Text) : Except Error (Char × Text) :=
  match hexDigits t with
  | .error e => .error e
  | .ok (n, rest) =>
    if isTrailing n then malformed .loneSurrogate
    else if isLeading n then
      match trailingEscape rest with
      | .ok (m, rest) => .ok (Char.ofNat ((n - 0xD800) * 0x400 + (m - 0xDC00) + 0x10000), rest)
      | .error e => .error e
    else .ok (Char.ofNat n, rest)

/-- Reads an escape from behind its backslash. -/
def escaped (t : Text) : Except Error (Char × Text) :=
  match t with
  | [] => cutoff .string
  | e :: rest =>
    match escape? e with
    | some c => .ok (c, rest)
    | none => if e = 'u' then codeEscape rest else malformed .invalidEscape

/-- Passes over an escape from behind its backslash.  Surrogates need not be paired. -/
def skipEscaped (t : Text) : Except Error Text :=
  match t with
  | [] => cutoff .string
  | e :: rest =>
    if (escape? e).isSome then .ok rest
    else if e = 'u' then
      match hexDigits rest with
      | .ok (_, rest) => .ok rest
      | .error e => .error e
    else malformed .invalidEscape

theorem length_lt_of_hexDigits {t rest : Text} {n : Nat} (h : hexDigits t = .ok (n, rest)) :
    rest.length < t.length := by
  unfold hexDigits at h
  grind [badHex, cutoff, malformed]

theorem length_lt_of_trailingEscape {t rest : Text} {n : Nat}
    (h : trailingEscape t = .ok (n, rest)) : rest.length < t.length := by
  unfold trailingEscape at h
  grind [cutoff, malformed, → length_lt_of_hexDigits]

theorem length_lt_of_codeEscape {t rest : Text} {c : Char} (h : codeEscape t = .ok (c, rest)) :
    rest.length < t.length := by
  unfold codeEscape at h
  grind [malformed, → length_lt_of_hexDigits, → length_lt_of_trailingEscape]

/-- An escape takes at least one character. -/
theorem length_lt_of_escaped {t rest : Text} {c : Char} (h : escaped t = .ok (c, rest)) :
    rest.length < t.length := by
  unfold escaped at h
  grind [cutoff, malformed, → length_lt_of_codeEscape]

/-- An escape that is passed over takes at least one character. -/
theorem length_lt_of_skipEscaped {t rest : Text} (h : skipEscaped t = .ok rest) :
    rest.length < t.length := by
  unfold skipEscaped at h
  grind [cutoff, malformed, → length_lt_of_hexDigits]

/-- Reads a string from behind its opening quote; `done` holds the characters read so far, the last
    one first. -/
def stringFrom (done t : Text) : Except Error (Text × Text) :=
  match t with
  | [] => cutoff .string
  | c :: rest =>
    if c = '"' then .ok (done.reverse, rest)
    else if c = '\\' then
      match _h : escaped rest with
      | .ok (c, after) => stringFrom (c :: done) after
      | .error e => .error e
    else if c.toNat < 0x20 then malformed .controlCharacter
    else stringFrom (c :: done) rest
termination_by t.length
decreasing_by
  · have := length_lt_of_escaped _h
    simp only [List.length_cons]
    omega
  · simp

/-- Passes over a string from behind its opening quote. -/
def skipString (t : Text) : Except Error Text :=
  match t with
  | [] => cutoff .string
  | c :: rest =>
    if c = '"' then .ok rest
    else if c = '\\' then
      match _h : skipEscaped rest with
      | .ok after => skipString after
      | .error e => .error e
    else if c.toNat < 0x20 then malformed .controlCharacter
    else skipString rest
termination_by t.length
decreasing_by
  · have := length_lt_of_skipEscaped _h
    simp only [List.length_cons]
    omega
  · simp

/-! ## Numbers -/

/-- The parts of a written number. -/
structure Numeral where
  negative : Bool
  whole : Text
  /-- The digits behind the point, none if there is no point. -/
  fraction : Text
  /-- The written exponent, if there is one. -/
  exponent : Option Int

/-- The value of some decimal digits. -/
def digitsValue (ds : Text) : Nat := ds.foldl (fun n d => 10 * n + (d.toNat - '0'.toNat)) 0

/-- Reads at least one digit. -/
def digits (atEnd : Error) (t : Text) : Except Error (Text × Text) :=
  match t with
  | [] => .error atEnd
  | c :: _ =>
    if c.isDigit then .ok (t.takeWhile Char.isDigit, t.dropWhile Char.isDigit)
    else malformed .invalidNumber

/-- Reads the digits before the point: a single zero, or digits that do not start with one. -/
def wholeDigits (atEnd : Error) (t : Text) : Except Error (Text × Text) := do
  let (ds, rest) ← digits atEnd t
  match ds with
  | '0' :: _ :: _ => malformed .invalidNumber
  | _ => .ok (ds, rest)

/-- Reads the point and the digits behind it, if there is a point. -/
def fractionDigits (atEnd : Error) (t : Text) : Except Error (Text × Text) :=
  match t with
  | '.' :: rest => digits atEnd rest
  | _ => .ok ([], t)

/-- Reads the exponent, if there is one. -/
def exponentPart (atEnd : Error) (t : Text) : Except Error (Option Int × Text) :=
  match t with
  | c :: rest =>
    if c = 'e' ∨ c = 'E' then
      match rest with
      | '-' :: rest => do
        let (ds, rest) ← digits atEnd rest
        return (some (-(digitsValue ds : Int)), rest)
      | '+' :: rest => do
        let (ds, rest) ← digits atEnd rest
        return (some (digitsValue ds : Int), rest)
      | rest => do
        let (ds, rest) ← digits atEnd rest
        return (some (digitsValue ds : Int), rest)
    else .ok (none, t)
  | [] => .ok (none, [])

/-- Reads the parts of a number that starts here; `atEnd` is reported if the text ends where a digit
    has to stand. -/
def numeral (atEnd : Error) (t : Text) : Except Error (Numeral × Text) := do
  let (negative, t) := match t with
    | '-' :: rest => (true, rest)
    | _ => (false, t)
  let (whole, t) ← wholeDigits atEnd t
  let (fraction, t) ← fractionDigits atEnd t
  let (exponent, t) ← exponentPart atEnd t
  return (⟨negative, whole, fraction, exponent⟩, t)

/-- Appends digits to a significand as long as it stays below `2 ^ 64`, and counts them. -/
def extend (significand taken : Nat) : Text → Nat × Nat
  | [] => (significand, taken)
  | d :: ds =>
    let next := 10 * significand + (d.toNat - '0'.toNat)
    if next < UInt64.size then extend next (taken + 1) ds else (significand, taken)

/-- The double `x * 10 ^ e`, with one rounding for every step of at most `308` powers of ten. -/
def scale (x : Float) (e : Int) : Except Error Float :=
  if e.natAbs ≤ 308 then
    let power := Float.ofScientific 1 false e.natAbs
    if 0 ≤ e then
      if (x * power).isInf then malformed .numberOutOfRange else .ok (x * power)
    else .ok (x / power)
  else if x == 0 then .ok x
  else if 0 ≤ e then malformed .numberOutOfRange
  else scale (x / Float.ofScientific 1 false 308) (e + 308)
termination_by e.natAbs
decreasing_by omega

/-- The number that the parts stand for.  Without point and exponent it is a whole number if that
    fits; otherwise, and for the negative zero, it is the double next to the digits that fit into 64
    bits. -/
def Numeral.value (n : Numeral) : Except Error Number := do
  let (s, taken) := extend 0 0 n.whole
  if n.fraction.isEmpty && n.exponent.isNone && taken == n.whole.length then
    if !n.negative then return .natural s.toUInt64
    else if s = 0 ∨ 9223372036854775808 < s then return .real (-s.toUInt64.toFloat)
    else return .negative (-(s : Int))
  else
    let dropped : Int := n.whole.length - taken
    let (s, taken) := extend s 0 n.fraction
    let x ← scale s.toUInt64.toFloat (dropped - taken + n.exponent.getD 0)
    return .real (if n.negative then -x else x)

/-- Reads a number. -/
def number : Reader Number := fun t => do
  let (n, rest) ← numeral (.cutoff .value) t
  return (← n.value, rest)

/-- Passes over a number, whatever its size. -/
def skipNumber (t : Text) : Except Error Text := do
  let (_, rest) ← numeral (.malformed .invalidNumber) t
  return rest

end OrderOfGrowth.Json
