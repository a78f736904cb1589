import OrderOfGrowth.Json.Reader

/-! # JSON decoders — typed data from a text or from a value

    A decoder reads its type in two ways: from a text, in one pass, where the first problem wins
    whether the text is no JSON or holds something else; and from a value that has been read before,
    where only the second kind of problem is left.  A record is an object with its fields in any
    order, or a list with its fields in their own order. -/

namespace OrderOfGrowth.Json

/-- A way to get data of a type. -/
structure Decoder (α : Type) where
  /-- From the start of a text, blanks apart. -/
  read : Reader α
  /-- From a value. -/
  ofValue : Value → Except Mismatch α

/-- The value is not what was asked for. -/
def mismatch {α : Type} (m : Mismatch) : Except Error α := .error (.mismatch m)

/-- A mismatch as an error of a text. -/
def ofMismatch {α : Type} : Except Mismatch α → Except Error α
  | .ok a => .ok a
  | .error m => mismatch m

/-- What stands here, in the place of what was wanted; a word, number or string is read to its end
    first. -/
def unexpected {α : Type} (wanted : Wanted) (c : Char) (rest : Text) : Except Error α := do
  let found : Found ←
    if c = 'n' then do let _ ← word "ull".toList rest; pure .null
    else if c = 't' then do let _ ← word "rue".toList rest; pure (.bool true)
    else if c = 'f' then do let _ ← word "alse".toList rest; pure (.bool false)
    else if c = '-' ∨ c.isDigit then do let (n, _) ← number (c :: rest); pure (.number n)
    else if c = '"' then do let (s, _) ← stringFrom [] rest; pure (.text s)
    else if c = '[' then pure .list
    else if c = '\x7b' then pure .object
    else malformed .expectedValue
  mismatch (.wrongType found wanted)

/-- What a value is, for a message. -/
def Value.found : Value → Found
  | .null => .null
  | .bool b => .bool b
  | .number n => .number n
  | .text t => .text t
  | .list _ => .list
  | .object _ => .object

/-- A size is a natural number below `2 ^ 64`. -/
def Number.size : Number → Except Mismatch UInt64
  | .natural n => .ok n
  | .negative n => .error (.negativeSize n)
  | .real x => .error (.wrongType (.number (.real x)) .size)

/-- Any number is a sample. -/
def Number.sample : Number → Float
  | .natural n => n.toFloat
  | .negative n => -(n.natAbs.toUInt64.toFloat)
  | .real x => x

namespace Decoder

/-- Skips blanks, and hands on the first character and what follows it. -/
def start {α : Type} (k : Char → Text → Except Error α) (t : Text) : Except Error α :=
  match skipBlanks t with
  | [] => cutoff .value
  | c :: rest => k c rest

/-- Texts. -/
def text : Decoder Text where
  read := start fun c rest => if c = '"' then stringFrom [] rest else unexpected .text c rest
  ofValue
    | .text t => .ok t
    | v => .error (.wrongType v.found .text)

/-- Truth values. -/
def bool : Decoder Bool where
  read := start fun c rest =>
    if c = 't' then do return (true, ← word "rue".toList rest)
    else if c = 'f' then do return (false, ← word "alse".toList rest)
    else unexpected .bool c rest
  ofValue
    | .bool b => .ok b
    | v => .error (.wrongType v.found .bool)

/-- Sizes. -/
def size : Decoder UInt64 where
  read := start fun c rest =>
    if c = '-' ∨ c.isDigit then do
      let (n, rest) ← number (c :: rest)
      return (← ofMismatch n.size, rest)
    else unexpected .size c rest
  ofValue
    | .number n => n.size
    | v => .error (.wrongType v.found .size)

/-- Samples. -/
def sample : Decoder Float where
  read := start fun c rest =>
    if c = '-' ∨ c.isDigit then do
      let (n, rest) ← number (c :: rest)
      return (n.sample, rest)
    else unexpected .sample c rest
  ofValue
    | .number n => .ok n.sample
    | v => .error (.wrongType v.found .sample)

/-- Lists of things of one kind. -/
def list {α : Type} (item : Decoder α) : Decoder (List α) where
  read := start fun c rest => if c = '[' then items item.read rest else unexpected .list c rest
  ofValue
    | .list vs => vs.mapM item.ofValue
    | v => .error (.wrongType v.found .list)

/-- The same data seen as another type. -/
def map {α β : Type} (f : α → β) (d : Decoder α) : Decoder β where
  read t := do
    let (a, rest) ← d.read t
    return (f a, rest)
  ofValue v := (d.ofValue v).map f

/-- Decodes a whole text. -/
def decode {α : Type} (d : Decoder α) (t : Text) : Except Error α := do
  let (a, rest) ← d.read t
  endOfText rest
  return a

end Decoder

/-! ## Records -/

/-- A field of a record that is filled in piece by piece; `σ` is the record with gaps. -/
structure Field (σ : Type) where
  name : Text
  /-- Has the field been filled in? -/
  isSet : σ → Bool
  /-- Fills the field in from a text. -/
  read : σ → Reader σ
  /-- Fills the field in from a value. -/
  ofValue : σ → Value → Except Mismatch σ

/-- The field with the given name, reached by `get` and `set`. -/
def Field.of {σ α : Type} (name : String) (d : Decoder α) (get : σ → Option α) (set : σ → α → σ) :
    Field σ where
  name := name.toList
  isSet s := (get s).isSome
  read s t := do
    let (a, rest) ← d.read t
    return (set s a, rest)
  ofValue s v := do
    let a ← d.ofValue v
    return set s a

/-- How a record is put together from its fields. -/
structure Record (σ α : Type) where
  name : String
  fields : List (Field σ)
  /-- The record with nothing filled in. -/
  blank : σ
  /-- Completes the record.  The argument says what to report for a field that has no value and no
      default, by its place and its name. -/
  finish : (Nat → Text → Mismatch) → σ → Except Mismatch α

namespace Record

variable {σ α : Type}

/-- Reports a field that is absent from an object. -/
def missing (_ : Record σ α) (_ : Nat) (name : Text) : Mismatch := .missingField name

/-- Reports a field that a list is too short for. -/
def tooShort (r : Record σ α) (place : Nat) (_ : Text) : Mismatch :=
  .tooShort place r.name r.fields.length

/-- Fills in fields from an open object.  Keys that no field has are passed over with their
    values. -/
def readMembers (r : Record σ α) :
    (fuel : Nat) → (first : Bool) → σ → Text → Except Error (σ × Text)
  | 0, _, _, _ => cutoff .object
  | fuel + 1, first, s, t => do
    match ← nextKey first t with
    | .closed rest => return (s, rest)
    | .more t =>
      let (key, t) ← stringFrom [] t
      match r.fields.find? (·.name == key) with
      | some f =>
        if f.isSet s then mismatch (.duplicateField key)
        else
          let t ← colon t
          let (s, rest) ← f.read s t
          readMembers r fuel false s rest
      | none =>
        let t ← colon t
        let rest ← skipValue t
        readMembers r fuel false s rest

/-- Fills in fields in their own order from an open list, as far as it goes, and tells whether the
    list was closed. -/
def readItems : List (Field σ) → (first : Bool) → σ → Text → Except Error (σ × Next)
  | [], _, s, t => .ok (s, .more t)
  | f :: fs, first, s, t => do
    match ← nextItem first t with
    | .closed rest => return (s, .closed rest)
    | .more t =>
      let (s, t) ← f.read s t
      readItems fs false s t

/-- Fills in fields from the members of an object. -/
def takeMembers (r : Record σ α) : List (Text × Value) → σ → Except Mismatch σ
  | [], s => .ok s
  | (key, v) :: rest, s =>
    match r.fields.find? (·.name == key) with
    | some f => do
      let s ← f.ofValue s v
      takeMembers r rest s
    | none => takeMembers r rest s

/-- Fills in fields in their own order from the items of a list, and counts the items left over. -/
def takeItems : List (Field σ) → List Value → σ → Except Mismatch (σ × Nat)
  | f :: fs, v :: vs, s => do
    let s ← f.ofValue s v
    takeItems fs vs s
  | _, vs, s => .ok (s, vs.length)

/-- Decodes a record. -/
def decoder (r : Record σ α) : Decoder α where
  read := Decoder.start fun c rest =>
    if c = '\x7b' then do
      let (s, rest) ← r.readMembers (rest.length + 1) true r.blank rest
      return (← ofMismatch (r.finish r.missing s), rest)
    else if c = '[' then do
      let (s, next) ← readItems r.fields true r.blank rest
      let a ← ofMismatch (r.finish r.tooShort s)
      match next with
      | .closed rest => return (a, rest)
      | .more t => return (a, ← endList t)
    else unexpected (.record r.name) c rest
  ofValue
    | .object members => do
      let s ← r.takeMembers (Value.sortedMembers members) r.blank
      r.finish r.missing s
    | .list vs => do
      let (s, left) ← takeItems r.fields vs r.blank
      let a ← r.finish r.tooShort s
      if left = 0 then return a else .error (.tooLong vs.length)
    | v => .error (.wrongType v.found (.record r.name))

end Record

end OrderOfGrowth.Json
