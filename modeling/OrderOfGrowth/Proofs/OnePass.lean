import OrderOfGrowth.Proofs.Lines
import OrderOfGrowth.Proofs.Trace
import OrderOfGrowth.Proofs.Traversal

/-! # One pass — the tally of a source text without its outline

    The program builds an outline and walks over it afterwards.  A `Pass` reads the lines once,
    keeps only the stack of what opened the scopes that are still open, and counts as it goes.  The
    two agree (`tally_ofSource`), and the route is the trace:

    * an effect is one step of a pass (`Pass.apply`), and a line is the steps of its effects
      (`foldl_apply_events`);
    * the effects whose marks are the trace of a row do to a pass what the row does to a tally
      (`foldl_apply_of_traces`): the loops on the stack are the depth that the walk is at, and a
      function's own calls are those met while it is on top;
    * settling closes costs a pass nothing (`exists_settled`). -/

namespace OrderOfGrowth

/-- A reading of lines that remembers no outline. -/
structure Pass where
  /-- What opened the scopes that are open, the innermost first. -/
  scopes : List Opener
  /-- The largest number of loops open at once. -/
  deepest : Nat
  /-- The number of lines that allocate. -/
  allocations : Nat
  /-- Has a function been seen to call itself? -/
  recursive : Bool

namespace Pass

/-- Nothing read yet. -/
def start : Pass := ⟨[], 0, 0, false⟩

/-- Is the innermost open scope a function of that name? -/
def innermostIs (scopes : List Opener) (name : Text) : Bool :=
  scopes.head? == some (.function (some name))

/-- The open scopes once the line has opened its own. -/
def opened (p : Pass) (t : LineTags) : List Opener :=
  (if t.opensFunction then [.function t.functionName] else []) ++
  (if t.opensLoop then [.loop] else []) ++ p.scopes

/-- Reads one line: its scopes open, everything is counted against the stack that this gives, and
    then the innermost scope closes if the line says so and there is one. -/
def line (p : Pass) (t : LineTags) : Pass where
  scopes := if t.closes then (p.opened t).tail else p.opened t
  deepest := max p.deepest ((p.opened t).count .loop)
  allocations := if t.allocates then p.allocations + 1 else p.allocations
  recursive := p.recursive || t.calls.any (innermostIs (p.opened t))

/-- Reads lines from the first to the last. -/
def ofLines (lines : List LineTags) : Pass := lines.foldl line start

/-- What has been counted; no loop counts as open any more. -/
def tally (p : Pass) : Tally := ⟨p.deepest, 0, p.recursive, p.allocations⟩

/-! ## One effect at a time -/

/-- The number of open loops. -/
def loops (p : Pass) : Nat := p.scopes.count .loop

/-- One effect. -/
def apply (p : Pass) : Event → Pass
  | .enter opener =>
      { p with
        scopes := opener :: p.scopes
        deepest := max p.deepest ((opener :: p.scopes).count .loop) }
  | .allocation => { p with allocations := p.allocations + 1 }
  | .call name => { p with recursive := p.recursive || innermostIs p.scopes name }
  | .leave => { p with scopes := p.scopes.tail }

/-- No more loops are open than have been counted. -/
theorem loops_apply_le {p : Pass} (h : p.loops ≤ p.deepest) (e : Event) :
    (p.apply e).loops ≤ (p.apply e).deepest := by
  cases e with
  | enter opener => exact Nat.le_max_right _ _
  | allocation => exact h
  | call name => exact h
  | leave => exact ((List.tail_sublist p.scopes).count_le _).trans h

theorem loops_foldl_apply_le {p : Pass} (h : p.loops ≤ p.deepest) (es : List Event) :
    (es.foldl apply p).loops ≤ (es.foldl apply p).deepest := by
  induction es generalizing p with
  | nil => exact h
  | cons e es ih => exact ih (loops_apply_le h e)

/-- The scopes of a line open one by one. -/
theorem foldl_apply_opens {p : Pass} (h : p.loops ≤ p.deepest) (t : LineTags) :
    ((if t.opensLoop then [Event.enter .loop] else []) ++
      (if t.opensFunction then [Event.enter (.function t.functionName)] else [])).foldl apply p
      = { p with scopes := p.opened t, deepest := max p.deepest ((p.opened t).count .loop) } := by
  have hkeep : max p.deepest (p.scopes.count .loop) = p.deepest := Nat.max_eq_left h
  cases hl : t.opensLoop <;> cases hf : t.opensFunction <;>
    simp [opened, hl, hf, apply, hkeep]

/-- The calls of a line are held against the same stack. -/
theorem foldl_apply_calls (p : Pass) (names : List Text) :
    (names.map Event.call).foldl apply p
      = { p with recursive := p.recursive || names.any (innermostIs p.scopes) } := by
  induction names generalizing p with
  | nil => simp
  | cons name names ih =>
      rw [List.map_cons, List.foldl_cons, ih, List.any_cons]
      simp only [apply, Bool.or_assoc]

/-- A line is the steps of its effects. -/
theorem foldl_apply_events {p : Pass} (h : p.loops ≤ p.deepest) (t : LineTags) :
    t.events.foldl apply p = p.line t := by
  rw [LineTags.events, List.foldl_append, List.foldl_append, List.foldl_append,
    foldl_apply_opens h, line]
  cases ha : t.allocates <;> cases hc : t.closes <;>
    simp [foldl_apply_calls, apply]

/-- Lines are the steps of their effects. -/
theorem foldl_apply_flatMap_events (lines : List LineTags) :
    (lines.flatMap LineTags.events).foldl apply start = ofLines lines := by
  have hgen : ∀ p : Pass, p.loops ≤ p.deepest →
      (lines.flatMap LineTags.events).foldl apply p = lines.foldl line p := by
    induction lines with
    | nil => intro p _; rfl
    | cons t ts ih =>
        intro p h
        have hline := loops_foldl_apply_le h t.events
        rw [foldl_apply_events h] at hline
        rw [List.flatMap_cons, List.foldl_append, foldl_apply_events h, List.foldl_cons,
          ih _ hline]
  exact hgen start (Nat.le_refl 0)

/-! ## Effects whose marks are a trace -/

/-- Is the node a call that the innermost open scope makes of itself? -/
@[simp] def isOwnCall (scopes : List Opener) : Outline → Bool
  | .call name => innermostIs scopes name
  | _ => false

/-- The pass after whole outlines. -/
def after (p : Pass) (row : List Outline) : Pass :=
  { p with
    deepest := max p.deepest (p.loops + Outline.loopDepths row)
    allocations := p.allocations + ((Outline.nodesOf row).map Outline.allocated).sum
    recursive := p.recursive ||
      (row.any (isOwnCall p.scopes) || (Outline.nodesOf row).any Outline.callsItself) }

theorem after_nil {p : Pass} (h : p.loops ≤ p.deepest) : p.after [] = p := by
  simp [after, Nat.max_eq_left h]

theorem after_append (p : Pass) (row more : List Outline) :
    p.after (row ++ more) = (p.after row).after more := by
  simp only [after, loops, Outline.loopDepths_append, Outline.nodesOf_append, List.any_append,
    List.map_append, List.sum_append, Nat.add_assoc, ← Nat.add_max_add_left, Nat.max_assoc]
  ac_rfl

theorem loops_after_le (p : Pass) (row : List Outline) :
    (p.after row).loops ≤ (p.after row).deepest :=
  (Nat.le_add_right _ _).trans (Nat.le_max_right _ _)

/-- A function calls itself if, with it on top, one of its children is its own call. -/
theorem callsItself_function (name : Option Text) (body : List Outline) (outer : List Opener) :
    (Outline.function name body).callsItself
      = body.any (isOwnCall (.function name :: outer)) := by
  cases name with
  | none =>
      refine (List.any_eq_false.mpr fun c _ => ?_).symm
      cases c <;> simp [innermostIs]
  | some n =>
      refine congrArg (body.any ·) (funext fun c => ?_)
      cases c <;> simp [innermostIs, eq_comm]

/-- Opening a loop, passing its body and closing it is passing the loop. -/
theorem apply_leave_after_loop (p : Pass) (body : List Outline) :
    ((p.apply (.enter .loop)).after body).apply .leave = p.after [.loop body] := by
  have hown : body.any (isOwnCall (.loop :: p.scopes)) = false := by
    refine List.any_eq_false.mpr fun c _ => ?_
    cases c <;> simp [innermostIs]
  have hdeep : max (max p.deepest (p.scopes.count .loop + 1))
      (p.scopes.count .loop + 1 + Outline.loopDepths body)
      = max p.deepest (p.scopes.count .loop + (Outline.loopDepths body + 1)) := by
    omega
  simp [after, apply, loops, hown, hdeep]

/-- Opening a function, passing its body and closing it is passing the function. -/
theorem apply_leave_after_function {p : Pass} (h : p.loops ≤ p.deepest) (name : Option Text)
    (body : List Outline) :
    ((p.apply (.enter (.function name))).after body).apply .leave
      = p.after [.function name body] := by
  have hkeep : max p.deepest (p.scopes.count .loop) = p.deepest := Nat.max_eq_left h
  have hcalls := callsItself_function name body p.scopes
  simp [after, apply, loops, hkeep, ← hcalls]

/-- Effects whose marks open with a scope and end with a close enclose the effects in between. -/
theorem exists_enclosed {es : List Event} {opener : Opener} {ms : List Mark}
    (h : es.map Event.mark = .enter opener :: (ms ++ [.leave])) :
    ∃ inner, es = .enter opener :: (inner ++ [.leave]) ∧ inner.map Event.mark = ms := by
  obtain ⟨e, tail, rfl, he, htail⟩ := List.map_eq_cons_iff.mp h
  obtain ⟨inner, last, rfl, hinner, hlast⟩ := List.map_eq_append_iff.mp htail
  obtain ⟨e', rfl, he'⟩ := List.map_eq_singleton_iff.mp hlast
  have hopen : e = .enter opener := by
    cases e <;> simp_all [Event.mark]
  have hclose : e' = .leave := by
    cases e' <;> simp_all [Event.mark]
  subst hopen hclose
  exact ⟨inner, rfl, hinner⟩

/-- If the effects of every outline of a row do to a pass what the outline does, so do those of
    the row. -/
theorem foldl_apply_row {row : List Outline}
    (h : ∀ u ∈ row, ∀ (p : Pass) (es : List Event), p.loops ≤ p.deepest →
      es.map Event.mark = u.trace → es.foldl apply p = p.after [u])
    {p : Pass} {es : List Event} (hp : p.loops ≤ p.deepest)
    (hes : es.map Event.mark = Outline.traces row) : es.foldl apply p = p.after row := by
  induction row generalizing p es with
  | nil =>
      rw [Outline.traces, List.map_eq_nil_iff] at hes
      rw [hes, after_nil hp]
      rfl
  | cons u us ih =>
      rw [Outline.traces] at hes
      obtain ⟨first, rest, rfl, hfirst, hrest⟩ := List.map_eq_append_iff.mp hes
      rw [List.foldl_append, h u List.mem_cons_self p first hp hfirst,
        ih (fun v hv => h v (List.mem_cons_of_mem u hv)) (loops_after_le p [u]) hrest,
        ← after_append]
      rfl

/-- Effects whose marks are the trace of an outline do to a pass what the outline does. -/
theorem foldl_apply_of_trace (u : Outline) (p : Pass) (es : List Event)
    (hp : p.loops ≤ p.deepest) (hes : es.map Event.mark = u.trace) :
    es.foldl apply p = p.after [u] := by
  induction u using Outline.childInduction generalizing p es with
  | step u ih =>
      have hkeep : max p.deepest (p.scopes.count .loop) = p.deepest := Nat.max_eq_left hp
      cases u with
      | program body =>
          -- no effect opens a program
          obtain ⟨e, tail, rfl, he, -⟩ := List.map_eq_cons_iff.mp hes
          cases e <;> simp [Event.mark] at he
      | loop body =>
          obtain ⟨inner, rfl, hinner⟩ := exists_enclosed hes
          have hbody := foldl_apply_row ih (loops_apply_le hp (.enter .loop)) hinner
          rw [List.foldl_cons, List.foldl_append, hbody]
          exact apply_leave_after_loop p body
      | function name body =>
          obtain ⟨inner, rfl, hinner⟩ := exists_enclosed hes
          have hbody := foldl_apply_row ih (loops_apply_le hp (.enter (.function name))) hinner
          rw [List.foldl_cons, List.foldl_append, hbody]
          exact apply_leave_after_function hp name body
      | allocation count =>
          obtain ⟨e, rfl, he⟩ := List.map_eq_singleton_iff.mp hes
          cases e <;> simp only [Event.mark, reduceCtorEq, Mark.allocation.injEq] at he
          subst he
          simp [apply, after, loops, hkeep]
      | call name =>
          obtain ⟨e, rfl, he⟩ := List.map_eq_singleton_iff.mp hes
          cases e <;> simp only [Event.mark, reduceCtorEq, Mark.call.injEq] at he
          subst he
          simp [apply, after, loops, hkeep]

/-! ## Settled effects -/

/-- Closes at the end count for nothing. -/
theorem tally_foldl_leave (n : Nat) (p : Pass) :
    ((List.replicate n Event.leave).foldl apply p).tally = p.tally := by
  induction n generalizing p with
  | zero => rfl
  | succ n ih => rw [List.replicate_succ, List.foldl_cons, ih]; rfl

/-- Settled marks are the marks of effects that a pass counts alike. -/
theorem exists_settled (es : List Event) (p : Pass) :
    ∃ settled : List Event,
      settled.map Event.mark = Mark.settle p.scopes.length (es.map Event.mark) ∧
      (settled.foldl apply p).tally = (es.foldl apply p).tally := by
  induction es generalizing p with
  | nil =>
      refine ⟨List.replicate p.scopes.length .leave, ?_, tally_foldl_leave _ p⟩
      rw [List.map_replicate]
      rfl
  | cons e es ih =>
      obtain ⟨settled, hmarks, htally⟩ := ih (p.apply e)
      cases e with
      | enter opener => exact ⟨.enter opener :: settled, congrArg _ hmarks, htally⟩
      | allocation => exact ⟨.allocation :: settled, congrArg _ hmarks, htally⟩
      | call name => exact ⟨.call name :: settled, congrArg _ hmarks, htally⟩
      | leave =>
          obtain ⟨scopes, deepest, allocations, recursive⟩ := p
          cases scopes with
          | nil => exact ⟨settled, hmarks, htally⟩
          | cons opener outer => exact ⟨.leave :: settled, congrArg _ hmarks, htally⟩

/-- The outline of some effects has the tally of a pass over them. -/
theorem tally_finish_ofEvents (es : List Event) :
    (Draft.ofEvents es).finish.tally = (es.foldl apply start).tally := by
  obtain ⟨body, hbody, htraces⟩ := Draft.traces_finish_ofEvents es
  obtain ⟨settled, hmarks, htally⟩ := exists_settled es start
  have hstart : start.loops ≤ start.deepest := Nat.le_refl 0
  have hrow := foldl_apply_row (fun u _ => foldl_apply_of_trace u) hstart
    (hmarks.trans htraces.symm)
  have hown : body.any (isOwnCall []) = false := by
    refine List.any_eq_false.mpr fun c _ => ?_
    cases c <;> simp [innermostIs]
  rw [hbody, (Outline.program body).tally_eq_after, ← htally, hrow]
  simp [tally, after, start, loops, hown, Tally.after, Tally.zero]

end Pass

/-- **One pass is enough.**  For all rules and every source text, the walk over the outline collects
    what one pass over the lines counts.  So it is after the first `n` lines, for every `n`, once
    the scopes that are open then are closed; and these lines, if there are any, are the lines of a
    source text of their own. -/
theorem Outline.tally_ofSource (rules : LineRules) (source : Text) :
    (Outline.ofSource rules source).tally
      = (Pass.ofLines ((source.splitOn '\n').map rules.tags)).tally ∧
    ∀ n, (Draft.ofEvents
        (((source.splitOn '\n').take n).flatMap fun line => (rules.tags line).events)).finish.tally
        = (Pass.ofLines (((source.splitOn '\n').take n).map rules.tags)).tally ∧
      (0 < n →
        (Outline.ofSource rules (['\n'].intercalate ((source.splitOn '\n').take n))).tally
          = (Pass.ofLines (((source.splitOn '\n').take n).map rules.tags)).tally) := by
  have hlines : ∀ lines : List Text,
      (Draft.ofEvents (lines.flatMap fun line => (rules.tags line).events)).finish.tally
        = (Pass.ofLines (lines.map rules.tags)).tally := by
    intro lines
    rw [Pass.tally_finish_ofEvents, ← Pass.foldl_apply_flatMap_events, List.flatMap_map]
  refine ⟨hlines _, fun n => ⟨hlines _, fun hn => ?_⟩⟩
  have h := hlines ((['\n'].intercalate ((source.splitOn '\n').take n)).splitOn '\n')
  rw [Text.splitOn_intercalate_take source hn] at h
  rw [← h, Outline.ofSource, Reading.ofSource, LineRules.events, Text.lines,
    Text.splitOn_intercalate_take source hn]

end OrderOfGrowth
