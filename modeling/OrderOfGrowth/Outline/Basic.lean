import OrderOfGrowth.Text.Basic

/-! # Outlines — the nesting of loops, functions, allocations and calls

    An outline is the shallow tree that is left of a source text when only its loops, functions,
    allocations and calls are kept. -/

namespace OrderOfGrowth

/-- A node of the nesting tree. -/
inductive Outline where
  | program (body : List Outline)
  | loop (body : List Outline)
  | function (name : Option Text) (body : List Outline)
  | allocation (count : Nat)
  | call (name : Text)

namespace Outline

/-- The five sorts of node. -/
inductive Kind where
  | program
  | loop
  | function
  | allocation
  | call
deriving DecidableEq

/-- All kinds of node. -/
def Kind.all : List Kind := [.program, .loop, .function, .allocation, .call]

/-- The sort of a node. -/
def kind : Outline → Kind
  | program _ => .program
  | loop _ => .loop
  | function _ _ => .function
  | allocation _ => .allocation
  | call _ => .call

/-- The children in the order of the text; a leaf has none. -/
def children : Outline → List Outline
  | program body => body
  | loop body => body
  | function _ body => body
  | allocation _ => []
  | call _ => []

mutual

/-- The number of nodes of an outline. -/
def size : Outline → Nat
  | program body => 1 + sizes body
  | loop body => 1 + sizes body
  | function _ body => 1 + sizes body
  | allocation _ => 1
  | call _ => 1

/-- The number of nodes of a row of outlines. -/
def sizes : List Outline → Nat
  | [] => 0
  | t :: ts => size t + sizes ts

end

theorem sizes_append (xs ys : List Outline) : sizes (xs ++ ys) = sizes xs + sizes ys := by
  induction xs with
  | nil => simp [sizes]
  | cons x xs ih => simp only [List.cons_append, sizes, ih]; omega

theorem sizes_reverse (ts : List Outline) : sizes ts.reverse = sizes ts := by
  induction ts with
  | nil => rfl
  | cons t ts ih => simp only [List.reverse_cons, sizes_append, sizes, ih]; omega

/-- An outline is one node and its children's nodes. -/
theorem size_eq (t : Outline) : t.size = 1 + sizes t.children := by
  cases t <;> simp [size, children, sizes]

/-- One for a node of the given kind, and zero for any other. -/
def ofKind (k : Kind) (t : Outline) : Nat := if t.kind = k then 1 else 0

/-- A count of nodes under way.  The outlines still to be looked at are kept in a list, so that deep
    nesting costs no depth of recursion. -/
structure Census where
  /-- The outlines still to be looked at, the next one first. -/
  pending : List Outline
  /-- How many nodes have been found. -/
  found : Nat

namespace Census

/-- The count after its next step, or nothing if it is over.  A step looks at one node and puts its
    children on top of what is pending, so that the last of them is next. -/
def step? (k : Kind) (c : Census) : Option Census :=
  match c.pending with
  | [] => none
  | t :: rest => some ⟨t.children.reverse ++ rest, c.found + t.ofKind k⟩

/-- Every step leaves one node less. -/
theorem sizes_step? {k : Kind} {c c' : Census} (h : c.step? k = some c') :
    sizes c'.pending + 1 = sizes c.pending := by
  obtain ⟨pending, found⟩ := c
  cases pending with
  | nil => exact nomatch h
  | cons t rest =>
    simp only [step?, Option.some.injEq] at h
    subst h
    simp only [sizes_append, sizes_reverse, sizes, size_eq t]
    omega

/-- How many nodes of the kind have been found when the count is over. -/
def run (k : Kind) (c : Census) : Nat :=
  match _h : c.step? k with
  | none => c.found
  | some c' => run k c'
termination_by sizes c.pending
decreasing_by exact Nat.lt_of_succ_le (Nat.le_of_eq (sizes_step? _h))

end Census

/-- The number of nodes of a kind, the root included. -/
def count (k : Kind) (t : Outline) : Nat := Census.run k ⟨[t], 0⟩

end Outline

end OrderOfGrowth
