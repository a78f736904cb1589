import OrderOfGrowth.Proofs.Trace
import OrderOfGrowth.Proofs.Traversal

/-! # The census of an outline — how many nodes of each kind there are

    A count keeps a list of pending outlines and always takes the one that was put there last, so it
    goes through the nodes neither in the order of the text nor level by level.  The order does not
    matter, since nothing is lost from the list and nothing comes twice:

    * `Census.total` is what has been found and what the pending outlines still hold; every step
      keeps it, and leaves one node less (`Census.total_step`, `Census.sizes_step?`);
    * so a count from ANY list ends after as many steps as the list has nodes, and has found the
      total then (`Census.takes_sizes`).

    How many nodes a source text gives rise to is read off its trace: the marks that open a node
    name its kind, and putting marks in balance touches closes only
    (`Mark.filterMap_kind?_settle`).  So ignored closes and scopes left open change no count. -/

namespace OrderOfGrowth

namespace Outline

/-! ## Nodes -/

theorem length_nodesOf (ts : List Outline) : (nodesOf ts).length = sizes ts := by
  induction ts using rowInduction with
  | nil => rfl
  | cons t ts hchildren hrest =>
      rw [nodesOf, List.length_append, nodes_eq, List.length_cons, hchildren, hrest, sizes, size_eq,
        Nat.add_comm 1]

/-- The nodes of a row read backwards are the same, in another order. -/
theorem nodesOf_reverse_perm (ts : List Outline) : (nodesOf ts.reverse).Perm (nodesOf ts) := by
  induction ts with
  | nil => exact List.Perm.refl _
  | cons t ts ih =>
      rw [List.reverse_cons, nodesOf_append, nodesOf_singleton, nodesOf]
      exact List.perm_append_comm.trans (List.Perm.append_left _ ih)

/-- Every node is of one kind. -/
theorem sum_countP_kind (ts : List Outline) :
    ts.countP (·.kind = .program) + ts.countP (·.kind = .loop) + ts.countP (·.kind = .function)
      + ts.countP (·.kind = .allocation) + ts.countP (·.kind = .call) = ts.length := by
  induction ts with
  | nil => rfl
  | cons t ts ih =>
      have hone : t.ofKind .program + t.ofKind .loop + t.ofKind .function + t.ofKind .allocation
          + t.ofKind .call = 1 := by
        cases t <;> rfl
      simp only [ofKind] at hone
      simp only [List.countP_cons, decide_eq_true_eq, List.length_cons]
      omega

/-! ## The count -/

namespace Census

/-- The second count is the first one after the given number of steps. -/
inductive Takes (k : Kind) : Nat → Census → Census → Prop where
  | done (c : Census) : Takes k 0 c c
  | step {n : Nat} {c c' c'' : Census} :
      c.step? k = some c' → Takes k n c' c'' → Takes k (n + 1) c c''

/-- The nodes of a kind that have been found, and those among what is pending. -/
def total (k : Kind) (c : Census) : Nat := c.found + (nodesOf c.pending).countP (·.kind = k)

/-- A step keeps the sum of the nodes found and to come. -/
theorem total_step {k : Kind} {c c' : Census} (h : c.step? k = some c') :
    c'.total k = c.total k := by
  obtain ⟨pending, found⟩ := c
  cases pending with
  | nil => exact nomatch h
  | cons t rest =>
      obtain rfl := Option.some.inj h
      -- the children are put there back to front, and a count does not see that
      have hchildren : (nodesOf t.children.reverse).countP (·.kind = k)
          = (nodesOf t.children).countP (·.kind = k) :=
        (nodesOf_reverse_perm t.children).countP_eq _
      simp only [total, nodesOf, nodesOf_append, nodes_eq t, List.cons_append, List.countP_cons,
        List.countP_append, hchildren, ofKind, decide_eq_true_eq]
      omega

/-- A count ends after one step for each node that is pending, and has found the total then. -/
theorem takes_sizes (k : Kind) (c : Census) :
    Takes k (sizes c.pending) c ⟨[], c.total k⟩ := by
  fun_induction run k c with
  | case1 c hover =>
      obtain ⟨pending, found⟩ := c
      cases pending with
      | nil => exact Takes.done _
      | cons t rest => exact nomatch hover
  | case2 c c' hstep ih =>
      rw [total_step hstep] at ih
      rw [← sizes_step? hstep]
      exact Takes.step hstep ih

/-- A count finds in the end what any later stage of it finds. -/
theorem run_eq_of_takes {k : Kind} {n : Nat} {c c' : Census} (h : Takes k n c c') :
    c.run k = c'.run k := by
  induction h with
  | done => rfl
  | step hstep _ ih =>
      rw [← ih, run]
      split
      · next hnone =>
          rw [hstep] at hnone
          exact absurd hnone (Option.some_ne_none _)
      · next hsome =>
          rw [hstep] at hsome
          rw [Option.some.inj hsome]

theorem run_nil (k : Kind) (found : Nat) : run k ⟨[], found⟩ = found := by
  rw [run]
  rfl

end Census

/-- A count gives the number of nodes of its kind. -/
theorem count_eq (k : Kind) (t : Outline) : t.count k = t.nodes.countP (·.kind = k) := by
  rw [count, Census.run_eq_of_takes (Census.takes_sizes k ⟨[t], 0⟩), Census.run_nil, Census.total,
    nodesOf_singleton, Nat.zero_add]

/-- The count over an outline takes one step for each node. -/
theorem takes_count (k : Kind) (t : Outline) :
    Census.Takes k t.nodes.length ⟨[t], 0⟩ ⟨[], t.count k⟩ := by
  have htakes := Census.takes_sizes k ⟨[t], 0⟩
  rwa [Census.total, nodesOf_singleton, Nat.zero_add, ← count_eq, ← length_nodesOf,
    nodesOf_singleton] at htakes

end Outline

/-! ## Nodes and marks -/

namespace Mark

/-- The kind of the node that a mark opens; a close opens none. -/
def kind? : Mark → Option Outline.Kind
  | program => some .program
  | enter .loop => some .loop
  | enter (.function _) => some .function
  | allocation _ => some .allocation
  | call _ => some .call
  | leave => none

/-- Putting marks in balance touches closes only. -/
theorem filterMap_kind?_settle (depth : Nat) (ms : List Mark) :
    (settle depth ms).filterMap kind? = ms.filterMap kind? := by
  induction ms generalizing depth with
  | nil => exact List.filterMap_replicate_of_none rfl
  | cons m ms ih =>
      cases m with
      | leave =>
          cases depth with
          | zero => exact ih 0
          | succ depth => exact ih depth
      | _ => simp only [settle, List.filterMap_cons, ih]

end Mark

/-- The marks of a row open its nodes, in their order. -/
theorem Outline.filterMap_kind?_traces (ts : List Outline) :
    (traces ts).filterMap Mark.kind? = (nodesOf ts).map kind := by
  induction ts using rowInduction with
  | nil => rfl
  | cons t ts hchildren hrest =>
      have hnode : t.trace.filterMap Mark.kind? = t.kind :: (nodesOf t.children).map kind := by
        rw [← hchildren]
        cases t <;> simp [trace, Mark.kind?, kind, children, traces]
      rw [traces, List.filterMap_append, hnode, hrest, nodesOf, nodes_eq, List.map_append,
        List.map_cons]

/-! ## Nodes and lines -/

namespace LineTags

/-- The kinds of the nodes that a line adds, in their order. -/
def kinds (t : LineTags) : List Outline.Kind :=
  (if t.opensLoop then [.loop] else []) ++
  (if t.opensFunction then [.function] else []) ++
  (if t.allocates then [.allocation] else []) ++
  List.replicate t.calls.length .call

theorem filterMap_kind?_marks (t : LineTags) : t.marks.filterMap Mark.kind? = t.kinds := by
  have hcalls : (t.calls.map Mark.call).filterMap Mark.kind?
      = List.replicate t.calls.length .call := by
    rw [List.filterMap_map, ← List.map_const']
    exact congrFun List.filterMap_eq_map' t.calls
  have hleave : (if t.closes then [Mark.leave] else []).filterMap Mark.kind? = [] := by
    cases t.closes <;> rfl
  simp only [marks, kinds, List.filterMap_append, hcalls, hleave,
    apply_ite (List.filterMap Mark.kind?), List.filterMap_cons, List.filterMap_nil, Mark.kind?,
    List.append_nil]

/-- The number of nodes of a kind that a line adds. -/
def adds (t : LineTags) : Outline.Kind → Nat
  | .program => 0
  | .loop => if t.opensLoop then 1 else 0
  | .function => if t.opensFunction then 1 else 0
  | .allocation => if t.allocates then 1 else 0
  | .call => t.calls.length

theorem count_kinds (t : LineTags) (k : Outline.Kind) : t.kinds.count k = t.adds k := by
  have htag : ∀ (b : Bool) (j : Outline.Kind),
      (if b then [j] else []).count k = if b then [j].count k else 0 := by
    intro b j
    cases b <;> rfl
  simp only [kinds, List.count_append, htag, List.count_replicate]
  cases k <;> simp [adds]

/-- A tag adds as many nodes as there are lines that carry it. -/
theorem count_flatMap_kinds (lines : List LineTags) :
    (lines.flatMap kinds).count .program = 0 ∧
    (lines.flatMap kinds).count .loop = lines.countP (·.opensLoop) ∧
    (lines.flatMap kinds).count .function = lines.countP (·.opensFunction) ∧
    (lines.flatMap kinds).count .allocation = lines.countP (·.allocates) ∧
    (lines.flatMap kinds).count .call = (lines.map (·.calls.length)).sum := by
  induction lines with
  | nil => exact ⟨rfl, rfl, rfl, rfl, rfl⟩
  | cons t lines ih =>
      obtain ⟨hprogram, hloop, hfunction, hallocation, hcall⟩ := ih
      simp only [List.flatMap_cons, List.count_append, count_kinds, hprogram, hloop, hfunction,
        hallocation, hcall, List.countP_cons, List.map_cons, List.sum_cons]
      exact ⟨rfl, Nat.add_comm _ _, Nat.add_comm _ _, Nat.add_comm _ _, rfl⟩

end LineTags

/-- The nodes of a source text's outline are the program and those that its lines add, in the order
    of the text. -/
theorem Outline.map_kind_nodes_ofSource (rules : LineRules) (source : Text) :
    (Outline.ofSource rules source).nodes.map kind
      = .program :: ((source.splitOn '\n').map rules.tags).flatMap LineTags.kinds := by
  obtain ⟨body, hbody, htraces⟩ := Draft.traces_finish_ofEvents (rules.events source)
  have hkinds : (nodesOf body).map kind
      = ((source.splitOn '\n').map rules.tags).flatMap LineTags.kinds := by
    rw [← filterMap_kind?_traces, htraces, Mark.filterMap_kind?_settle, LineRules.map_mark_events,
      List.filterMap_flatMap, List.flatMap_map]
    simp only [LineTags.filterMap_kind?_marks]
  rw [← hkinds]
  exact congrArg (fun t => t.nodes.map kind) hbody

/-- The outline of a source text has one program, and the nodes that its lines add. -/
theorem Outline.count_ofSource (rules : LineRules) (source : Text) (k : Kind) :
    (Outline.ofSource rules source).count k
      = [Kind.program].count k
        + (((source.splitOn '\n').map rules.tags).flatMap LineTags.kinds).count k := by
  have hkinds : ∀ t : Outline, t.count k = (t.nodes.map kind).count k := by
    intro t
    rw [count_eq, List.count_eq_countP, List.countP_map]
    rfl
  rw [hkinds, map_kind_nodes_ofSource, ← List.count_append]
  rfl

/-- **Every node is counted once.**  On every outline, whatever its root, and for every kind:

    * the count ends, with one step for each node and nothing pending, and gives the number of nodes
      of the kind among all nodes of the outline;
    * the five counts add up to the number of all nodes.

    For all rules and every source text, balanced or not, the outline has one program, a loop for
    each line that opens a loop, a function for each line that opens a function, an allocation for
    each line that allocates, and a call for each call on a line. -/
theorem Outline.count_spec :
    (∀ (t : Outline) (k : Kind),
      Census.Takes k t.nodes.length ⟨[t], 0⟩ ⟨[], t.count k⟩ ∧
      t.count k = t.nodes.countP (·.kind = k)) ∧
    (∀ t : Outline,
      t.count .program + t.count .loop + t.count .function + t.count .allocation + t.count .call
        = t.nodes.length) ∧
    ∀ (rules : LineRules) (source : Text),
      let outline := Outline.ofSource rules source
      let lines := (source.splitOn '\n').map rules.tags
      outline.count .program = 1 ∧
      outline.count .loop = lines.countP (·.opensLoop) ∧
      outline.count .function = lines.countP (·.opensFunction) ∧
      outline.count .allocation = lines.countP (·.allocates) ∧
      outline.count .call = (lines.map (·.calls.length)).sum := by
  refine ⟨?_, ?_, ?_⟩
  · intro t k
    exact ⟨takes_count k t, count_eq k t⟩
  · intro t
    simp only [count_eq]
    exact sum_countP_kind t.nodes
  · intro rules source outline lines
    obtain ⟨hprogram, hloop, hfunction, hallocation, hcall⟩ := LineTags.count_flatMap_kinds lines
    have hcount : ∀ k, outline.count k
        = [Kind.program].count k + (lines.flatMap LineTags.kinds).count k :=
      count_ofSource rules source
    rw [hcount, hcount, hcount, hcount, hcount, hprogram, hloop, hfunction, hallocation, hcall]
    exact ⟨rfl, Nat.zero_add _, Nat.zero_add _, Nat.zero_add _, Nat.zero_add _⟩

end OrderOfGrowth
