import OrderOfGrowth.Text.Basic

/-! # JSON values

    A number keeps what its spelling says: a natural number below `2 ^ 64`, a negative number not
    below `-2 ^ 63`, or a double for everything else.  An object keeps its members in the order in
    which they were written. -/

namespace OrderOfGrowth.Json

/-- A JSON number. -/
inductive Number where
  | natural (n : UInt64)
  | negative (n : Int)
  | real (x : Float)

/-- A JSON value. -/
inductive Value where
  | null
  | bool (b : Bool)
  | number (n : Number)
  | text (t : Text)
  | list (items : List Value)
  | object (members : List (Text × Value))
deriving Inhabited

namespace Value

/-- A natural number. -/
def ofNat (n : Nat) : Value := .number (.natural n.toUInt64)

/-- A double. -/
def ofFloat (x : Float) : Value := .number (.real x)

/-- A text, or null if there is none. -/
def ofText? : Option Text → Value
  | none => .null
  | some t => .text t

/-- An object whose keys are given as strings. -/
def record (members : List (String × Value)) : Value :=
  .object (members.map fun (key, v) => (key.toList, v))

/-- The members of an object by key: in increasing order of the keys, and of members with the same
    key the last. -/
def sortedMembers (members : List (Text × Value)) : List (Text × Value) :=
  let sorted := members.mergeSort fun a b => a.1.le b.1
  sorted.foldr (fun m later => if later.head?.map (·.1) = some m.1 then later else m :: later) []

/-- The member of an object with the given key, the last if there are several. -/
def get? (v : Value) (key : String) : Option Value :=
  match v with
  | object members => (members.reverse.find? (·.1 == key.toList)).map (·.2)
  | _ => none

end Value

end OrderOfGrowth.Json
