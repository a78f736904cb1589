import OrderOfGrowth.Outline.Basic

/-! # Tallies — loop depth, allocations and self-calls of an outline

    One walk over the outline, in the order of the text, collects what the estimate is made from.
    The walk keeps its pending visits in a list, with a marker behind each loop body that brings the
    depth back down, so that deep nesting costs no depth of recursion. -/

namespace OrderOfGrowth

/-- What a walk has collected. -/
structure Tally where
  /-- The largest number of loops open at once. -/
  deepest : Nat
  /-- The number of loops open now. -/
  depth : Nat
  /-- Has a function been seen to call itself? -/
  recursive : Bool
  /-- The sum of the allocation counts. -/
  allocations : Nat
deriving DecidableEq

namespace Tally

/-- Nothing seen yet. -/
def zero : Tally := ⟨0, 0, false, 0⟩

/-- Is one of the nodes a call of the given name?  A function without a name calls nobody by it. -/
def callsItself (name : Option Text) (body : List Outline) : Bool :=
  match name with
  | none => false
  | some n => body.any fun
    | .call callee => callee == n
    | _ => false

/-- The tally after a node itself, its children apart. -/
def enter (t : Tally) : Outline → Tally
  | .program _ => t
  | .loop _ => { t with depth := t.depth + 1, deepest := max t.deepest (t.depth + 1) }
  | .function name body => { t with recursive := t.recursive || callsItself name body }
  | .allocation count => { t with allocations := t.allocations + count }
  | .call _ => t

/-- The tally after a loop's body. -/
def leaveLoop (t : Tally) : Tally := { t with depth := t.depth - 1 }

end Tally

/-- A step that a walk still has to take. -/
inductive Visit where
  /-- Look at a node, then at its children. -/
  | node (t : Outline)
  /-- The body of a loop is done. -/
  | loopEnd

namespace Visit

/-- A bound on the steps that a visit gives rise to. -/
def cost : Visit → Nat
  | node t => 2 * t.size
  | loopEnd => 1

/-- A bound on the steps that some visits give rise to. -/
def costs : List Visit → Nat
  | [] => 0
  | v :: vs => v.cost + costs vs

/-- The visits that a node gives rise to. -/
def below : Outline → List Visit
  | .loop body => body.map node ++ [loopEnd]
  | t => t.children.map node

theorem costs_append (us vs : List Visit) : costs (us ++ vs) = costs us + costs vs := by
  induction us with
  | nil => simp [costs]
  | cons u us ih => simp only [List.cons_append, costs, ih]; omega

theorem costs_map_node (ts : List Outline) : costs (ts.map node) = 2 * Outline.sizes ts := by
  induction ts with
  | nil => rfl
  | cons t ts ih =>
    simp only [List.map_cons, costs, cost, Outline.sizes, ih]
    omega

/-- Going below a node takes fewer steps than the node itself. -/
theorem costs_below_lt (t : Outline) : costs (below t) < cost (node t) := by
  cases t <;>
    simp only [below, Outline.children, costs_append, costs_map_node, costs, cost, Outline.size,
      Outline.sizes] <;> omega

end Visit

/-- A walk under way. -/
structure Walk where
  tally : Tally
  pending : List Visit

namespace Walk

/-- The walk after its next step, or nothing if it is over. -/
def step? (w : Walk) : Option Walk :=
  match w.pending with
  | [] => none
  | .node t :: rest => some ⟨w.tally.enter t, Visit.below t ++ rest⟩
  | .loopEnd :: rest => some ⟨w.tally.leaveLoop, rest⟩

/-- Every step brings the walk nearer to its end. -/
theorem costs_step?_lt {w w' : Walk} (h : w.step? = some w') :
    Visit.costs w'.pending < Visit.costs w.pending := by
  obtain ⟨tally, pending⟩ := w
  cases pending with
  | nil => simp [step?] at h
  | cons v rest =>
    cases v with
    | node t =>
      simp only [step?, Option.some.injEq] at h
      subst h
      have := Visit.costs_below_lt t
      simp only [Visit.costs_append, Visit.costs]
      omega
    | loopEnd =>
      simp only [step?, Option.some.injEq] at h
      subst h
      simp [Visit.costs, Visit.cost]

/-- What the walk has collected when it is over. -/
def run (w : Walk) : Tally :=
  match _h : w.step? with
  | none => w.tally
  | some w' => run w'
termination_by Visit.costs w.pending
decreasing_by exact costs_step?_lt _h

end Walk

/-- What a walk over the whole outline collects. -/
def Outline.tally (t : Outline) : Tally := Walk.run ⟨.zero, [.node t]⟩

end OrderOfGrowth
