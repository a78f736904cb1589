import OrderOfGrowth.Outline.Basic
import OrderOfGrowth.Outline.Event

/-! # Drafts — an outline while its scopes are still open

    A draft holds the finished children of the program and the stack of open scopes.  A scope joins
    its parent when it closes.  The program itself is no scope, so it cannot be closed: a close that
    finds no open scope changes nothing but the count of ignored closes. -/

namespace OrderOfGrowth

/-- A scope that is still open, with its finished children, the latest first. -/
structure Scope where
  opener : Opener
  body : List Outline

namespace Scope

/-- The outline of a scope that closes. -/
def close (s : Scope) : Outline :=
  match s.opener with
  | .loop => .loop s.body.reverse
  | .function name => .function name s.body.reverse

/-- The scope with one more child. -/
def push (s : Scope) (t : Outline) : Scope := { s with body := t :: s.body }

end Scope

/-- An outline in the making. -/
structure Draft where
  /-- The program's finished children, the latest first. -/
  finished : List Outline
  /-- The open scopes, the innermost first. -/
  scopes : List Scope
  /-- How many closes found no open scope. -/
  ignoredCloses : Nat

namespace Draft

/-- Nothing read yet. -/
def empty : Draft := ⟨[], [], 0⟩

/-- Adds a node to the innermost open scope. -/
def push (d : Draft) (t : Outline) : Draft :=
  match d.scopes with
  | [] => { d with finished := t :: d.finished }
  | s :: outer => { d with scopes := s.push t :: outer }

/-- Closes the innermost open scope. -/
def close (d : Draft) : Draft :=
  match d.scopes with
  | [] => { d with ignoredCloses := d.ignoredCloses + 1 }
  | s :: outer => { d with scopes := outer }.push s.close

/-- Applies one effect. -/
def apply (d : Draft) : Event → Draft
  | .enter opener => { d with scopes := ⟨opener, []⟩ :: d.scopes }
  | .allocation => d.push (.allocation 1)
  | .call name => d.push (.call name)
  | .leave => d.close

/-- The number of scopes still open. -/
def unclosed (d : Draft) : Nat := d.scopes.length

/-- Closes every open scope, from the innermost outwards, and gives the program. -/
def finish (d : Draft) : Outline :=
  let inner := d.scopes.foldl (fun inner s => some (inner.elim s s.push).close) none
  .program (inner.toList ++ d.finished).reverse

/-- The draft after some effects. -/
def ofEvents (events : List Event) : Draft := events.foldl apply empty

end Draft

/-- What was seen of a source text. -/
structure Reading where
  outline : Outline
  lineCount : Nat
  /-- Scopes that were still open at the end. -/
  unclosed : Nat
  /-- Closes that found no open scope. -/
  ignoredCloses : Nat

/-- Reads a source text line by line. -/
def Reading.ofSource (rules : LineRules) (source : Text) : Reading :=
  let draft := Draft.ofEvents (rules.events source)
  { outline := draft.finish
    lineCount := source.lines.length
    unclosed := draft.unclosed
    ignoredCloses := draft.ignoredCloses }

/-- The outline of a source text. -/
def Outline.ofSource (rules : LineRules) (source : Text) : Outline :=
  (Reading.ofSource rules source).outline

end OrderOfGrowth
