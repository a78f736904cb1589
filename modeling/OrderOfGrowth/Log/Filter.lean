import OrderOfGrowth.Log.Basic
import OrderOfGrowth.Text.Alphanumeric
import OrderOfGrowth.Text.Blank

/-! # Log filters — which records are kept

    A filter is a row of directives with commas between them, and a directive is one of

    * a level, for the records of all targets;
    * the beginning of a target, then a scope between square brackets, then an equals sign and a
      level.  The target or the scope may be missing, and so may the level, with or without its
      equals sign: then everything is kept.

    A scope names a span, or a field between braces, or both.  A run opens no spans, so only a scope
    that is a field alone can mean a record.

    A filter is read as a whole: one directive that cannot be read spoils it. -/

namespace OrderOfGrowth.Log

/-! ## Levels -/

/-- A number in decimal digits, with or without a plus in front of them. -/
def number? (t : Text) : Option Nat :=
  let digits := match t with
    | '+' :: ds => ds
    | ds => ds
  if digits.isEmpty || !digits.all Char.isDigit then none
  else some (digits.foldl (fun n d => 10 * n + (d.toNat - '0'.toNat)) 0)

/-- The least level kept, by its number; the inner option is empty if nothing is kept. -/
def levelOfNumber? : Nat → Option (Option Level)
  | 0 => some none
  | 1 => some (some .error)
  | 2 => some (some .warn)
  | 3 => some (some .info)
  | 4 => some (some .debug)
  | 5 => some (some .trace)
  | _ => none

/-- The least level kept, by its name in any case; the inner option is empty if nothing is kept. -/
def levelOfName? (t : Text) : Option (Option Level) :=
  match String.ofList (t.map Char.toLower) with
  | "off" => some none
  | "error" => some (some .error)
  | "warn" => some (some .warn)
  | "info" => some (some .info)
  | "debug" => some (some .debug)
  | "trace" => some (some .trace)
  | _ => none

/-- The least level kept, by its number or its name. -/
def level? (t : Text) : Option (Option Level) :=
  match number? t with
  | some n => levelOfNumber? n
  | none => levelOfName? t

/-! ## Directives -/

/-- Which records of its targets a directive means. -/
inductive Scope where
  /-- All of them. -/
  | all
  /-- Those with a field of that name. -/
  | field (name : Text)
  /-- Those inside certain spans: none. -/
  | span
deriving DecidableEq

/-- Up to which level some records are kept. -/
structure Directive where
  /-- The beginning of the targets that are meant. -/
  target : Text
  scope : Scope
  /-- The least important level that is kept, or none if nothing is. -/
  least : Option Level
deriving DecidableEq

/-- The scope of a field between braces.  Only the fields of spans are asked for their values. -/
def Scope.ofField (field : Text) : Scope := if field.contains '=' then .span else .field field

/-- Reads a scope up to its closing bracket; the opening one is already read. -/
def Scope.read? (t : Text) : Option (Scope × Text) :=
  let inName := fun c => c != ']' && c != '\x7b'
  match t.dropWhile inName with
  | ']' :: rest => some (.span, rest)
  | '\x7b' :: inner =>
    match Text.upTo '\x7d' inner, inner.dropWhile (· != '\x7d') with
    | c :: cs, '\x7d' :: ']' :: rest =>
      some (if (t.takeWhile inName).isEmpty then .ofField (c :: cs) else .span, rest)
    | _, _ => none
  | _ => none

/-- A directive as it is written. -/
structure Draft where
  target : Text
  /-- The scope, if there is one. -/
  scope : Option Scope
  /-- The text behind the equals sign, if there is one. -/
  level : Option Text

/-- The end of a directive behind its scope: nothing but blanks, or an equals sign and a level. -/
def Draft.finish? (target : Text) (scope : Scope) : Text → Option Draft
  | '=' :: level => some ⟨target, some scope, some level⟩
  | rest => if rest.all isBlank then some ⟨target, some scope, none⟩ else none

/-- Can a target start with the character? -/
def startsTarget (c : Char) : Bool := isAlphanumeric c || c == '-' || c == ':' || c == '_'

/-- Reads a directive without blanks in front of it. -/
def Draft.ofText? : Text → Option Draft
  | [] => none
  | c :: cs =>
    let inTarget := fun c => c != '=' && c != '['
    let target := (c :: cs).takeWhile inTarget
    if c = '[' || startsTarget c then
      match (c :: cs).dropWhile inTarget with
      | [] => some ⟨target, none, none⟩
      | '[' :: rest => (Scope.read? rest).bind fun (scope, rest) => finish? target scope rest
      | _ :: level => some ⟨target, none, some level⟩
    else none

/-- What a directive says.  A word alone is a level if there is such a level. -/
def Draft.directive? (d : Draft) : Option Directive :=
  let scope := d.scope.getD .all
  match d.level with
  | some [] => some ⟨d.target, scope, some .trace⟩
  | some level => (level? level).map (Directive.mk d.target scope)
  | none =>
    match d.scope, level? d.target with
    | none, some least => some ⟨[], .all, least⟩
    | _, _ => some ⟨d.target, scope, some .trace⟩

/-- Reads a directive.  Blanks in front of it are taken into the target, which then is the beginning
    of no target at all, and a level cannot be read behind them. -/
def Directive.ofText? (t : Text) : Option Directive :=
  match Draft.ofText? t.trimStart with
  | none => none
  | some d =>
    if t.trimStart = t then d.directive?
    else if d.level.isSome then none
    else some ⟨t, d.scope.getD .all, some .trace⟩

/-! ## Filters -/

/-- Which records are kept. -/
abbrev Filter := List Directive

/-- Reads a filter. -/
def Filter.ofText? (t : Text) : Option Filter :=
  ((t.splitOn ',').filter (!·.isEmpty)).mapM Directive.ofText?

/-- Does the directive mean the record? -/
def Directive.means (d : Directive) (r : Record) : Bool :=
  d.target.isPrefixOf r.target.toList &&
    match d.scope with
    | .all => true
    | .field name => r.has name
    | .span => false

/-- Is the second scope at least as narrow as the first?  A field is narrower than all records, and of
    two fields the one with the later name. -/
def Scope.le : Scope → Scope → Bool
  | .all, _ => true
  | .field a, .field b => Text.le a b
  | .field _, .all => false
  | .field _, .span => true
  | .span, s => s = .span

/-- Is the second directive at least as narrow as the first?  The longer target is narrower, and of
    equal ones the narrower scope decides. -/
def Directive.le (d e : Directive) : Bool :=
  d.target.length < e.target.length ||
    (d.target.length == e.target.length && d.scope.le e.scope)

/-- The directive that decides on a record: the narrowest that means it, and of several such the
    last. -/
def Filter.deciding? (f : Filter) (r : Record) : Option Directive :=
  (f.filter (·.means r)).foldl
    (fun best d =>
      match best with
      | some b => if b.le d then some d else some b
      | none => some d)
    none

/-- Is a record kept? -/
def Filter.keeps (f : Filter) (r : Record) : Bool :=
  match f.deciding? r with
  | some ⟨_, _, some least⟩ => least.rank ≤ r.level.rank
  | _ => false

/-- The filter used unless one is given. -/
def Filter.standard (verbose : Bool) : Filter :=
  [⟨"asymptote".toList, .all, some (if verbose then .debug else .warn)⟩]

end OrderOfGrowth.Log
