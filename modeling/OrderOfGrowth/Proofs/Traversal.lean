import Mathlib.Algebra.Ring.Nat
import Mathlib.Logic.Relation
import Mathlib.Order.Bounds.Basic
import OrderOfGrowth.Tally

/-! # The walk over an outline — what it collects, on every outline

    The walk keeps one list of pending visits in which the nodes of many subtrees and the markers
    behind loop bodies stand side by side.  What it collects is said here without a walk:

    * `Outline.Path` are the paths from the root to a node, `Outline.loopDepth` the most loops on
      one of them (`isGreatest_loopDepth`), and `Outline.nodes` all nodes with their repetitions;
    * `Tally.after` adds a row of outlines to a tally, and `reaches_node` says that the walk does
      the same, on top of ANY pending visits: each marker is met just when the body of its loop is
      done;
    * `Walk.Balanced` and `Walk.allocated` are what every step keeps: the depth is the number of
      pending markers, and allocations are either counted or still to come. -/

namespace OrderOfGrowth

namespace Outline

/-- A child is smaller than its parent. -/
theorem size_lt_of_mem_children {c t : Outline} (h : c ∈ t.children) : c.size < t.size := by
  have hle : ∀ ts : List Outline, c ∈ ts → c.size ≤ sizes ts := by
    intro ts hc
    induction ts with
    | nil => exact nomatch hc
    | cons u us ih =>
        rw [sizes]
        rcases List.mem_cons.mp hc with rfl | hc
        · omega
        · have := ih hc
          omega
  have := hle t.children h
  have := size_eq t
  omega

/-- What holds of a node whenever it holds of its children holds of every outline. -/
@[elab_as_elim]
theorem childInduction {motive : Outline → Prop}
    (step : ∀ t : Outline, (∀ c ∈ t.children, motive c) → motive t) (t : Outline) : motive t :=
  step t fun c hc =>
    have : c.size < t.size := size_lt_of_mem_children hc
    childInduction step c
termination_by t.size

/-- What holds of the empty row, and of a row whenever it holds of its first outline's children and
    of the others, holds of every row. -/
@[elab_as_elim]
theorem rowInduction {motive : List Outline → Prop} (nil : motive [])
    (cons : ∀ (t : Outline) (ts : List Outline), motive t.children → motive ts → motive (t :: ts))
    (ts : List Outline) : motive ts := by
  match ts with
  | [] => exact nil
  | t :: ts =>
      have hsize := size_eq t
      exact cons t ts (rowInduction nil cons t.children) (rowInduction nil cons ts)
termination_by sizes ts
decreasing_by all_goals (simp only [sizes]; omega)

/-! ## Paths and nodes -/

/-- A path from the root of an outline to one of its nodes, both ends included. -/
inductive Path : Outline → List Outline → Prop where
  | root (t : Outline) : Path t [t]
  | child {t c : Outline} {path : List Outline} :
      c ∈ t.children → Path c path → Path t (t :: path)

/-- The number of loops on a path. -/
def loopsOn (path : List Outline) : Nat := path.countP (·.kind = .loop)

mutual

/-- The most loops on a path from the root. -/
@[simp] def loopDepth : Outline → Nat
  | program body => loopDepths body
  | loop body => loopDepths body + 1
  | function _ body => loopDepths body
  | allocation _ => 0
  | call _ => 0

/-- The most loops on a path from one of the roots of a row. -/
@[simp] def loopDepths : List Outline → Nat
  | [] => 0
  | t :: ts => max (loopDepth t) (loopDepths ts)

end

mutual

/-- All nodes of an outline, in the order of the text. -/
@[simp] def nodes : Outline → List Outline
  | program body => program body :: nodesOf body
  | loop body => loop body :: nodesOf body
  | function name body => function name body :: nodesOf body
  | allocation count => [allocation count]
  | call name => [call name]

/-- All nodes of a row of outlines. -/
@[simp] def nodesOf : List Outline → List Outline
  | [] => []
  | t :: ts => nodes t ++ nodesOf ts

end

/-- The count of an allocation; any other node allocates nothing itself. -/
@[simp] def allocated : Outline → Nat
  | allocation count => count
  | _ => 0

/-- Is the node a function that calls itself? -/
@[simp] def callsItself : Outline → Bool
  | function name body => Tally.callsItself name body
  | _ => false

theorem loopDepth_eq (t : Outline) : t.loopDepth = t.ofKind .loop + loopDepths t.children := by
  cases t <;> simp [ofKind, kind, children, Nat.add_comm]

theorem nodes_eq (t : Outline) : t.nodes = t :: nodesOf t.children := by
  cases t <;> simp [children]

theorem loopDepths_append (ts us : List Outline) :
    loopDepths (ts ++ us) = max (loopDepths ts) (loopDepths us) := by
  induction ts with
  | nil => simp [loopDepths]
  | cons t ts ih => rw [List.cons_append, loopDepths, loopDepths, ih, Nat.max_assoc]

theorem nodesOf_append (ts us : List Outline) : nodesOf (ts ++ us) = nodesOf ts ++ nodesOf us := by
  induction ts with
  | nil => rfl
  | cons t ts ih => rw [List.cons_append, nodesOf, nodesOf, ih, List.append_assoc]

theorem loopDepths_singleton (t : Outline) : loopDepths [t] = t.loopDepth := by
  rw [loopDepths, loopDepths, Nat.max_zero]

theorem nodesOf_singleton (t : Outline) : nodesOf [t] = t.nodes := by
  rw [nodesOf, nodesOf, List.append_nil]

theorem loopDepth_le_of_mem {c : Outline} {ts : List Outline} (h : c ∈ ts) :
    c.loopDepth ≤ loopDepths ts := by
  induction ts with
  | nil => exact nomatch h
  | cons t ts ih =>
      rw [loopDepths]
      rcases List.mem_cons.mp h with rfl | h
      · exact Nat.le_max_left _ _
      · exact (ih h).trans (Nat.le_max_right _ _)

/-- The depth of a row is the depth of one of its outlines, unless it is zero. -/
theorem exists_mem_loopDepth_eq (ts : List Outline) :
    loopDepths ts = 0 ∨ ∃ c ∈ ts, c.loopDepth = loopDepths ts := by
  induction ts with
  | nil => exact Or.inl rfl
  | cons t ts ih =>
      refine Or.inr ?_
      rw [loopDepths]
      rcases Nat.le_total (loopDepths ts) t.loopDepth with hle | hle
      · exact ⟨t, List.mem_cons_self, (Nat.max_eq_left hle).symm⟩
      · rw [Nat.max_eq_right hle]
        rcases ih with h0 | ⟨c, hc, heq⟩
        · exact ⟨t, List.mem_cons_self, by omega⟩
        · exact ⟨c, List.mem_cons_of_mem _ hc, heq⟩

theorem loopsOn_cons (t : Outline) (path : List Outline) :
    loopsOn (t :: path) = t.ofKind .loop + loopsOn path := by
  simp only [loopsOn, List.countP_cons, ofKind, decide_eq_true_eq, Nat.add_comm]

/-- No path has more loops than the depth. -/
theorem loopsOn_le {t : Outline} {path : List Outline} (h : t.Path path) :
    loopsOn path ≤ t.loopDepth := by
  induction h with
  | root t =>
      rw [loopsOn_cons, loopDepth_eq]
      exact Nat.add_le_add_left (Nat.zero_le _) _
  | @child t c path hc _ ih =>
      rw [loopsOn_cons, loopDepth_eq]
      exact Nat.add_le_add_left (ih.trans (loopDepth_le_of_mem hc)) _

/-- Some path has as many loops as the depth. -/
theorem exists_path_loopsOn (t : Outline) : ∃ path, t.Path path ∧ loopsOn path = t.loopDepth := by
  induction t using childInduction with
  | step t ih =>
      rcases exists_mem_loopDepth_eq t.children with h0 | ⟨c, hc, heq⟩
      · refine ⟨[t], Path.root t, ?_⟩
        rw [loopsOn_cons, loopDepth_eq, h0]
        rfl
      · obtain ⟨path, hpath, hloops⟩ := ih c hc
        refine ⟨t :: path, Path.child hc hpath, ?_⟩
        rw [loopsOn_cons, loopDepth_eq, hloops, heq]

/-- The depth is the largest number of loops on a path from the root. -/
theorem isGreatest_loopDepth (t : Outline) :
    IsGreatest {n | ∃ path, t.Path path ∧ loopsOn path = n} t.loopDepth := by
  refine ⟨exists_path_loopsOn t, ?_⟩
  rintro n ⟨path, hpath, rfl⟩
  exact loopsOn_le hpath

/-- A node calls itself if it is a named function and a call of the name is among its children. -/
theorem callsItself_iff (t : Outline) :
    t.callsItself = true ↔ ∃ name body, t = .function (some name) body ∧ .call name ∈ body := by
  constructor
  · intro h
    match t, h with
    | .function (some name) body, h =>
        obtain ⟨c, hc, hcall⟩ := List.any_eq_true.mp h
        match c, hcall with
        | .call callee, hcall =>
            obtain rfl : callee = name := by simpa using hcall
            exact ⟨callee, body, rfl, hc⟩
  · rintro ⟨name, body, rfl, hc⟩
    exact List.any_eq_true.mpr ⟨.call name, hc, by simp⟩

end Outline

/-! ## The walk -/

namespace Tally

/-- A tally is true of an outline: it has the most loops on a path from the root, all allocations,
    and whether a named function has a call of its own name among its children. -/
structure Describes (a : Tally) (t : Outline) : Prop where
  deepest : IsGreatest {n | ∃ path, t.Path path ∧ Outline.loopsOn path = n} a.deepest
  allocations : a.allocations = (t.nodes.map Outline.allocated).sum
  recursive : a.recursive = true ↔
    ∃ name body, Outline.function (some name) body ∈ t.nodes ∧ .call name ∈ body

/-- The tally after whole outlines: their depth counts from the loops that are open. -/
def after (t : Tally) (row : List Outline) : Tally where
  deepest := max t.deepest (t.depth + Outline.loopDepths row)
  depth := t.depth
  recursive := t.recursive || (Outline.nodesOf row).any Outline.callsItself
  allocations := t.allocations + ((Outline.nodesOf row).map Outline.allocated).sum

theorem after_nil {t : Tally} (h : t.depth ≤ t.deepest) : t.after [] = t := by
  simp [after, Nat.max_eq_left h]

theorem after_append (t : Tally) (row more : List Outline) :
    t.after (row ++ more) = (t.after row).after more := by
  simp only [after, Outline.loopDepths_append, Outline.nodesOf_append, List.any_append,
    List.map_append, List.sum_append, Bool.or_assoc, Nat.add_assoc, Nat.add_max_add_left,
    Nat.max_assoc]

theorem depth_le_deepest_after (t : Tally) (row : List Outline) :
    (t.after row).depth ≤ (t.after row).deepest :=
  (Nat.le_add_right _ _).trans (Nat.le_max_right _ _)

/-- Entering a node counts the node itself. -/
theorem enter_eq {t : Tally} (h : t.depth ≤ t.deepest) (u : Outline) :
    t.enter u =
      { deepest := max t.deepest (t.depth + u.ofKind .loop)
        depth := t.depth + u.ofKind .loop
        recursive := t.recursive || u.callsItself
        allocations := t.allocations + u.allocated } := by
  cases u <;> simp [enter, Outline.ofKind, Outline.kind, Nat.max_eq_left h]

/-- Entering a node and passing its children is passing the node, but a loop is still open then. -/
theorem after_children_enter {t : Tally} (h : t.depth ≤ t.deepest) (u : Outline) :
    (t.enter u).after u.children = { t.after [u] with depth := t.depth + u.ofKind .loop } := by
  have hdeep : max (max t.deepest (t.depth + u.ofKind .loop))
      (t.depth + (u.ofKind .loop + Outline.loopDepths u.children))
      = max t.deepest (t.depth + (u.ofKind .loop + Outline.loopDepths u.children)) := by
    omega
  simp only [after, enter_eq h, hdeep, Outline.loopDepths_singleton, Outline.loopDepth_eq,
    Outline.nodesOf_singleton, Outline.nodes_eq, List.any_cons, List.map_cons, List.sum_cons,
    Bool.or_assoc, Nat.add_assoc]

end Tally

/-- Below a node lie its children and, behind those of a loop, the marker. -/
theorem Visit.below_eq (u : Outline) :
    below u = u.children.map node ++ List.replicate (u.ofKind .loop) loopEnd := by
  cases u <;> simp [below, Outline.children, Outline.ofKind, Outline.kind]

namespace Walk

/-- The second walk is the first one after some steps. -/
abbrev Reaches : Walk → Walk → Prop := Relation.ReflTransGen fun w w' => w.step? = some w'

/-- If every outline of a row is passed on top of any pending visits, so is the row. -/
theorem reaches_row {row : List Outline}
    (h : ∀ u ∈ row, ∀ (t : Tally) (rest : List Visit), t.depth ≤ t.deepest →
      Reaches ⟨t, .node u :: rest⟩ ⟨t.after [u], rest⟩)
    {t : Tally} (ht : t.depth ≤ t.deepest) (rest : List Visit) :
    Reaches ⟨t, row.map .node ++ rest⟩ ⟨t.after row, rest⟩ := by
  induction row generalizing t with
  | nil =>
      rw [Tally.after_nil ht]
      exact Relation.ReflTransGen.refl
  | cons u us ih =>
      have hfirst := h u List.mem_cons_self t (us.map .node ++ rest) ht
      have hrest := ih (fun v hv => h v (List.mem_cons_of_mem u hv))
        (Tally.depth_le_deepest_after t [u])
      rw [← Tally.after_append] at hrest
      exact hfirst.trans hrest

/-- One outline is passed on top of any pending visits, and they are next. -/
theorem reaches_node (u : Outline) (t : Tally) (rest : List Visit) (ht : t.depth ≤ t.deepest) :
    Reaches ⟨t, .node u :: rest⟩ ⟨t.after [u], rest⟩ := by
  induction u using Outline.childInduction generalizing t rest with
  | step u ih =>
      have hstep : Reaches ⟨t, .node u :: rest⟩ ⟨t.enter u, Visit.below u ++ rest⟩ :=
        Relation.ReflTransGen.single rfl
      have henter : (t.enter u).depth ≤ (t.enter u).deepest := by
        rw [Tally.enter_eq ht]
        exact Nat.le_max_right _ _
      rw [Visit.below_eq, List.append_assoc] at hstep
      have hbody := hstep.trans (reaches_row ih henter _)
      rw [Tally.after_children_enter ht, Outline.ofKind] at hbody
      by_cases hu : u.kind = .loop
      · -- the marker stood behind the body, on top of what was pending before, and is next
        rw [if_pos hu] at hbody
        have hleave : Reaches ⟨{ t.after [u] with depth := t.depth + 1 }, .loopEnd :: rest⟩
            ⟨t.after [u], rest⟩ :=
          Relation.ReflTransGen.single rfl
        exact hbody.trans hleave
      · rw [if_neg hu] at hbody
        exact hbody

/-- A walk collects in the end what any later stage of it collects. -/
theorem run_eq_of_reaches {w w' : Walk} (h : Reaches w w') : w.run = w'.run := by
  induction h with
  | refl => rfl
  | @tail u v _ hstep ih =>
      rw [ih, run]
      split
      · next hnone =>
          rw [hstep] at hnone
          exact absurd hnone (Option.some_ne_none v)
      · next x hsome =>
          rw [hstep] at hsome
          rw [Option.some.inj hsome]

theorem run_nil (t : Tally) : run ⟨t, []⟩ = t := by
  rw [run]
  rfl

/-! ## What every step keeps -/

/-- Is the visit the marker behind a loop's body? -/
def isLoopEnd : Visit → Bool
  | .node _ => false
  | .loopEnd => true

/-- The depth is the number of loops whose marker is still pending. -/
def Balanced (w : Walk) : Prop := w.tally.depth = w.pending.countP isLoopEnd

/-- The allocations that a visit will still come upon. -/
def allocatedBy : Visit → Nat
  | .node u => (u.nodes.map Outline.allocated).sum
  | .loopEnd => 0

/-- The allocations counted, and those still to come. -/
def allocated (w : Walk) : Nat := w.tally.allocations + (w.pending.map allocatedBy).sum

/-- A node puts a marker among the pending visits just when it opens a loop. -/
theorem countP_isLoopEnd_below (u : Outline) :
    (Visit.below u).countP isLoopEnd = u.ofKind .loop := by
  have hnodes : (u.children.map Visit.node).countP isLoopEnd = 0 := by
    rw [List.countP_map]
    exact List.countP_eq_zero.mpr fun v _ => by simp [isLoopEnd]
  rw [Visit.below_eq, List.countP_append, hnodes, List.countP_replicate, Nat.zero_add]
  rfl

theorem depth_enter (t : Tally) (u : Outline) :
    (t.enter u).depth = t.depth + u.ofKind .loop := by
  cases u <;> rfl

/-- Below a node lie the allocations of its children. -/
theorem sum_allocatedBy_below (u : Outline) :
    ((Visit.below u).map allocatedBy).sum
      = ((Outline.nodesOf u.children).map Outline.allocated).sum := by
  have hnodes : ∀ row : List Outline, ((row.map Visit.node).map allocatedBy).sum
      = ((Outline.nodesOf row).map Outline.allocated).sum := by
    intro row
    induction row with
    | nil => rfl
    | cons v vs ih =>
        rw [List.map_cons, List.map_cons, List.sum_cons, ih, Outline.nodesOf, List.map_append,
          List.sum_append, allocatedBy]
  rw [Visit.below_eq, List.map_append, List.sum_append, hnodes, List.map_replicate]
  simp [allocatedBy]

theorem allocations_enter (t : Tally) (u : Outline) :
    (t.enter u).allocations = t.allocations + u.allocated := by
  cases u <;> rfl

/-- Everything that a step can do. -/
theorem step?_cases {w w' : Walk} (h : w.step? = some w') :
    (∃ u rest, w.pending = .node u :: rest ∧
      w' = ⟨w.tally.enter u, Visit.below u ++ rest⟩) ∨
    (∃ rest, w.pending = .loopEnd :: rest ∧ w' = ⟨w.tally.leaveLoop, rest⟩) := by
  obtain ⟨tally, pending⟩ := w
  match pending, h with
  | .node u :: rest, h => exact Or.inl ⟨u, rest, rfl, (Option.some.inj h).symm⟩
  | .loopEnd :: rest, h => exact Or.inr ⟨rest, rfl, (Option.some.inj h).symm⟩

/-- A step keeps the balance of depth and markers. -/
theorem Balanced.step {w w' : Walk} (hw : w.Balanced) (h : w.step? = some w') : w'.Balanced := by
  unfold Balanced at hw ⊢
  rcases step?_cases h with ⟨u, rest, hp, rfl⟩ | ⟨rest, hp, rfl⟩
  · rw [hp, List.countP_cons_of_neg (by simp [isLoopEnd])] at hw
    rw [depth_enter, List.countP_append, countP_isLoopEnd_below, hw, Nat.add_comm]
  · rw [hp, List.countP_cons_of_pos rfl] at hw
    exact congrArg (· - 1) hw

/-- A step keeps the sum of the allocations counted and to come. -/
theorem allocated_step {w w' : Walk} (h : w.step? = some w') : w'.allocated = w.allocated := by
  rcases step?_cases h with ⟨u, rest, hp, rfl⟩ | ⟨rest, hp, rfl⟩
  · rw [allocated, allocated, hp, allocations_enter, List.map_append, List.sum_append,
      sum_allocatedBy_below, List.map_cons, List.sum_cons, allocatedBy, u.nodes_eq, List.map_cons,
      List.sum_cons]
    omega
  · rw [allocated, allocated, hp, List.map_cons, List.sum_cons, allocatedBy, Nat.zero_add]
    rfl

/-- Every stage of a walk has the balance that the walk started with. -/
theorem Balanced.reaches {w w' : Walk} (hw : w.Balanced) (h : Reaches w w') : w'.Balanced := by
  induction h with
  | refl => exact hw
  | tail _ hstep ih => exact ih.step hstep

/-- No stage of a walk has counted more allocations than there are. -/
theorem allocations_le_of_reaches {w w' : Walk} (h : Reaches w w') :
    w'.tally.allocations ≤ w.allocated := by
  have heq : w'.allocated = w.allocated := by
    induction h with
    | refl => rfl
    | tail _ hstep ih => rw [allocated_step hstep, ih]
  rw [← heq]
  exact Nat.le_add_right _ _

end Walk

namespace Outline

/-- The walk over an outline collects what the outline adds to nothing. -/
theorem tally_eq_after (t : Outline) : t.tally = Tally.zero.after [t] := by
  rw [tally, Walk.run_eq_of_reaches (Walk.reaches_node t .zero [] (Nat.le_refl 0)), Walk.run_nil]

theorem deepest_tally (t : Outline) : t.tally.deepest = t.loopDepth := by
  rw [tally_eq_after, Tally.after, loopDepths_singleton]
  simp [Tally.zero]

theorem allocations_tally (t : Outline) : t.tally.allocations = (t.nodes.map allocated).sum := by
  rw [tally_eq_after, Tally.after, nodesOf_singleton]
  simp [Tally.zero]

theorem recursive_tally (t : Outline) : t.tally.recursive = t.nodes.any callsItself := by
  rw [tally_eq_after, Tally.after, nodesOf_singleton]
  simp [Tally.zero]

theorem depth_tally (t : Outline) : t.tally.depth = 0 := by
  rw [tally_eq_after]
  rfl

/-- What the walk has collected is true of the outline. -/
theorem describes_tally (t : Outline) : t.tally.Describes t where
  deepest := by
    rw [t.deepest_tally]
    exact t.isGreatest_loopDepth
  allocations := t.allocations_tally
  recursive := by
    rw [t.recursive_tally, List.any_eq_true]
    constructor
    · rintro ⟨u, hu, hcalls⟩
      obtain ⟨name, body, rfl, hc⟩ := u.callsItself_iff.mp hcalls
      exact ⟨name, body, hu, hc⟩
    · rintro ⟨name, body, hu, hc⟩
      exact ⟨_, hu, (callsItself_iff _).mpr ⟨name, body, rfl, hc⟩⟩

/-- The walk over an outline ends with its tally. -/
theorem reaches_tally (t : Outline) : Walk.Reaches ⟨.zero, [.node t]⟩ ⟨t.tally, []⟩ := by
  rw [tally_eq_after]
  exact Walk.reaches_node t .zero [] (Nat.le_refl 0)

end Outline

/-- **What the walk collects.**  On every outline, whatever its root, the walk ends; the tally then
    has the largest number of loops on a path from the root, the sum of all allocation counts, and
    the recursion flag just when a named function has a call of its own name among its children;
    no loop is open.  At every stage the running sum is within the whole sum, and a marker is met
    only while a loop is open, so the depth never goes below zero. -/
theorem Outline.tally_spec (t : Outline) :
    Walk.Reaches ⟨.zero, [.node t]⟩ ⟨t.tally, []⟩ ∧
    IsGreatest {n | ∃ path, t.Path path ∧ Outline.loopsOn path = n} t.tally.deepest ∧
    t.tally.allocations = (t.nodes.map Outline.allocated).sum ∧
    (t.tally.recursive = true ↔
      ∃ name body, Outline.function (some name) body ∈ t.nodes ∧ .call name ∈ body) ∧
    t.tally.depth = 0 ∧
    ∀ w, Walk.Reaches ⟨.zero, [.node t]⟩ w →
      w.tally.allocations ≤ (t.nodes.map Outline.allocated).sum ∧
      ∀ rest, w.pending = .loopEnd :: rest → 0 < w.tally.depth := by
  obtain ⟨hdeepest, hallocations, hrecursive⟩ := t.describes_tally
  refine ⟨t.reaches_tally, hdeepest, hallocations, hrecursive, t.depth_tally, ?_⟩
  intro w hw
  refine ⟨?_, ?_⟩
  · refine (Walk.allocations_le_of_reaches hw).trans (Nat.le_of_eq ?_)
    simp [Walk.allocated, Walk.allocatedBy, Tally.zero]
  · intro rest hp
    have hstart : Walk.Balanced ⟨.zero, [.node t]⟩ := rfl
    have hb := hstart.reaches hw
    rw [Walk.Balanced, hp, List.countP_cons_of_pos rfl] at hb
    omega

end OrderOfGrowth
