import OrderOfGrowth.Outline.Draft

/-! # Traces — an outline as the row of marks that a depth-first walk meets

    A draft never holds a whole outline: open scopes lie on a stack, and each joins its parent only
    when it closes.  The route from the lines to the finished outline therefore goes through traces:

    * `Outline.traces` writes a row of outlines as marks, and `traces_leave_inj` reads it back, so
      two outlines with one trace are one outline;
    * `Draft.opening` is the trace of everything a draft holds, less the closes still to come.  It
      is the invariant: an effect adds its own mark to it, or nothing if it is an ignored close;
    * `Mark.settle` is the same rule on marks alone, and `traces_finish` joins the two. -/

namespace OrderOfGrowth

/-- What a depth-first walk over outlines meets. -/
inductive Mark where
  /-- A program opens. -/
  | program
  /-- A loop or a function opens. -/
  | enter (opener : Opener)
  /-- An allocation, with its count. -/
  | allocation (count : Nat)
  /-- A call. -/
  | call (name : Text)
  /-- The innermost open node closes. -/
  | leave
deriving DecidableEq

namespace Outline

mutual

/-- The marks of an outline: a node that has children opens before them and closes after them. -/
def trace : Outline → List Mark
  | program body => .program :: (traces body ++ [.leave])
  | loop body => .enter .loop :: (traces body ++ [.leave])
  | function name body => .enter (.function name) :: (traces body ++ [.leave])
  | allocation count => [.allocation count]
  | call name => [.call name]

/-- The marks of a row of outlines. -/
def traces : List Outline → List Mark
  | [] => []
  | t :: ts => trace t ++ traces ts

end

theorem traces_append (ts us : List Outline) : traces (ts ++ us) = traces ts ++ traces us := by
  induction ts with
  | nil => rfl
  | cons t ts ih => rw [List.cons_append, traces, traces, ih, List.append_assoc]

theorem traces_singleton (t : Outline) : traces [t] = trace t := by
  rw [traces, traces, List.append_nil]

/-- An outline never starts with a close. -/
theorem trace_append_ne_leave (t : Outline) (ms ks : List Mark) :
    trace t ++ ms ≠ .leave :: ks := by
  cases t <;> simp [trace]

mutual

/-- The marks of an outline show where it ends, and which outline it is. -/
theorem trace_append_inj : ∀ (t u : Outline) (ms ks : List Mark),
    trace t ++ ms = trace u ++ ks → t = u ∧ ms = ks := by
  intro t u ms ks h
  -- nodes of different kinds differ in their first mark; two of a kind leave their bodies
  cases t <;> cases u <;> simp only [trace, List.cons_append, List.append_assoc,
    List.nil_append, List.cons.injEq, reduceCtorEq, false_and, Mark.enter.injEq,
    Opener.function.injEq, Mark.allocation.injEq, Mark.call.injEq, true_and] at h
  case program.program body body' =>
      obtain ⟨rfl, hk⟩ := traces_leave_inj body body' ms ks h
      exact ⟨rfl, hk⟩
  case loop.loop body body' =>
      obtain ⟨rfl, hk⟩ := traces_leave_inj body body' ms ks h
      exact ⟨rfl, hk⟩
  case function.function name body name' body' =>
      obtain ⟨rfl, h⟩ := h
      obtain ⟨rfl, hk⟩ := traces_leave_inj body body' ms ks h
      exact ⟨rfl, hk⟩
  case allocation.allocation count count' =>
      obtain ⟨rfl, hk⟩ := h
      exact ⟨rfl, hk⟩
  case call.call name name' =>
      obtain ⟨rfl, hk⟩ := h
      exact ⟨rfl, hk⟩

/-- The marks of a row up to the close behind it show which row it is. -/
theorem traces_leave_inj : ∀ (ts us : List Outline) (ms ks : List Mark),
    traces ts ++ .leave :: ms = traces us ++ .leave :: ks → ts = us ∧ ms = ks := by
  intro ts us ms ks h
  match ts, us with
  | [], [] => exact ⟨rfl, (List.cons.inj h).2⟩
  | [], u :: us =>
      rw [traces, traces, List.append_assoc] at h
      exact absurd h.symm (trace_append_ne_leave u _ _)
  | t :: ts, [] =>
      rw [traces, traces, List.append_assoc] at h
      exact absurd h (trace_append_ne_leave t _ _)
  | t :: ts, u :: us =>
      rw [traces, traces, List.append_assoc, List.append_assoc] at h
      obtain ⟨rfl, hrest⟩ := trace_append_inj t u _ _ h
      obtain ⟨rfl, hk⟩ := traces_leave_inj ts us ms ks hrest
      exact ⟨rfl, hk⟩

end

/-- An outline can be read back from its trace. -/
theorem trace_injective {t u : Outline} (h : t.trace = u.trace) : t = u :=
  (trace_append_inj t u [] [] (by rw [h])).1

end Outline

/-! ## What the lines ask for -/

/-- The marks of a line: the loop opens, then the function, then come the allocation and the calls
    in their order, and the close is last. -/
def LineTags.marks (t : LineTags) : List Mark :=
  (if t.opensLoop then [.enter .loop] else []) ++
  (if t.opensFunction then [.enter (.function t.functionName)] else []) ++
  (if t.allocates then [.allocation 1] else []) ++
  t.calls.map .call ++
  (if t.closes then [.leave] else [])

/-- Marks put in balance when `depth` scopes are open: a close that finds no open scope is dropped,
    and each scope that is still open at the end gets a close. -/
def Mark.settle : (depth : Nat) → List Mark → List Mark
  | depth, [] => List.replicate depth .leave
  | depth, .program :: ms => .program :: settle (depth + 1) ms
  | depth, .enter opener :: ms => .enter opener :: settle (depth + 1) ms
  | depth, .allocation count :: ms => .allocation count :: settle depth ms
  | depth, .call name :: ms => .call name :: settle depth ms
  | 0, .leave :: ms => settle 0 ms
  | depth + 1, .leave :: ms => .leave :: settle depth ms

example : Mark.settle 0 [.leave, .enter .loop, .leave, .enter .loop, .allocation 1]
    = [.enter .loop, .leave, .enter .loop, .allocation 1, .leave] := rfl

/-- The mark of an effect. -/
def Event.mark : Event → Mark
  | .enter opener => .enter opener
  | .allocation => .allocation 1
  | .call name => .call name
  | .leave => .leave

/-- The effects of a line have its marks. -/
theorem LineTags.map_mark_events (t : LineTags) : t.events.map Event.mark = t.marks := by
  have hcalls : (t.calls.map Event.call).map Event.mark = t.calls.map Mark.call := by
    rw [List.map_map]
    rfl
  simp only [events, marks, List.map_append, hcalls, apply_ite (List.map Event.mark),
    List.map_cons, List.map_nil, Event.mark]

/-- The effects of a source text have the marks of its lines. -/
theorem LineRules.map_mark_events (r : LineRules) (source : Text) :
    (r.events source).map Event.mark
      = (source.splitOn '\n').flatMap fun line => (r.tags line).marks := by
  rw [LineRules.events, Text.lines, List.map_flatMap]
  exact congrArg (List.flatMap · _) (funext fun line => (r.tags line).map_mark_events)

/-! ## What a draft holds -/

/-- The marks of an open scope, its close apart. -/
def Scope.opening (s : Scope) : List Mark := .enter s.opener :: Outline.traces s.body.reverse

/-- The marks of open scopes, the innermost first in the list and so last in the marks. -/
def Scope.openings : List Scope → List Mark
  | [] => []
  | s :: outer => openings outer ++ s.opening

theorem Scope.opening_push (s : Scope) (t : Outline) :
    (s.push t).opening = s.opening ++ t.trace := by
  rw [opening, opening, push, List.reverse_cons, Outline.traces_append, Outline.traces_singleton,
    List.cons_append]

/-- A scope that closes has its opening for a trace, and then a close. -/
theorem Scope.trace_close (s : Scope) : s.close.trace = s.opening ++ [.leave] := by
  obtain ⟨opener, body⟩ := s
  cases opener <;> rfl

namespace Draft

/-- The marks of everything that a draft holds, the closes still to come apart. -/
def opening (d : Draft) : List Mark :=
  Outline.traces d.finished.reverse ++ Scope.openings d.scopes

theorem opening_push (d : Draft) (t : Outline) : (d.push t).opening = d.opening ++ t.trace := by
  obtain ⟨finished, scopes, ignored⟩ := d
  cases scopes with
  | nil =>
      simp only [push, opening, Scope.openings, List.append_nil, List.reverse_cons,
        Outline.traces_append, Outline.traces_singleton]
  | cons s outer =>
      simp only [push, opening, Scope.openings, Scope.opening_push, List.append_assoc]

theorem unclosed_push (d : Draft) (t : Outline) : (d.push t).unclosed = d.unclosed := by
  obtain ⟨finished, scopes, ignored⟩ := d
  cases scopes <;> rfl

/-- One effect adds its own mark, unless it is a close that finds no open scope. -/
theorem opening_apply (d : Draft) (e : Event) (ms : List Mark) :
    (d.apply e).opening ++ Mark.settle (d.apply e).unclosed ms
      = d.opening ++ Mark.settle d.unclosed (e.mark :: ms) := by
  cases e with
  | enter opener =>
      obtain ⟨finished, scopes, ignored⟩ := d
      simp only [apply, opening, Scope.openings, Scope.opening, List.reverse_nil, Outline.traces,
        unclosed, List.length_cons, Event.mark, Mark.settle, List.append_assoc, List.cons_append,
        List.nil_append]
  | allocation =>
      rw [apply, opening_push, unclosed_push, Event.mark, Mark.settle, List.append_assoc]
      rfl
  | call name =>
      rw [apply, opening_push, unclosed_push, Event.mark, Mark.settle, List.append_assoc]
      rfl
  | leave =>
      obtain ⟨finished, scopes, ignored⟩ := d
      cases scopes with
      | nil => rfl
      | cons s outer =>
          -- the scope's marks move from the stack into its parent, and its close follows them
          rw [show (Draft.mk finished (s :: outer) ignored).apply .leave
            = (Draft.mk finished outer ignored).push s.close from rfl]
          rw [opening_push, unclosed_push, Scope.trace_close]
          simp only [opening, Scope.openings, unclosed, List.length_cons, Event.mark, Mark.settle,
            List.append_assoc, List.cons_append, List.nil_append]

/-- A run of effects leaves a draft that, once its scopes are closed, holds the settled marks. -/
theorem opening_foldl_apply (es : List Event) (d : Draft) :
    (es.foldl apply d).opening ++ List.replicate (es.foldl apply d).unclosed .leave
      = d.opening ++ Mark.settle d.unclosed (es.map Event.mark) := by
  induction es generalizing d with
  | nil => rw [List.foldl_nil, List.map_nil, Mark.settle]
  | cons e es ih => rw [List.foldl_cons, ih, opening_apply, List.map_cons]

/-- Closing open scopes from the innermost outwards adds one close for each of them. -/
theorem traces_closeScopes (scopes : List Scope) (inner : Option Outline) :
    Outline.traces
        (scopes.foldl (fun inner s => some (inner.elim s s.push).close) inner).toList
      = Scope.openings scopes ++ Outline.traces inner.toList
        ++ List.replicate scopes.length .leave := by
  induction scopes generalizing inner with
  | nil => simp [Scope.openings]
  | cons s outer ih =>
      have hinner : (inner.elim s s.push).opening = s.opening ++ Outline.traces inner.toList := by
        cases inner with
        | none => exact (List.append_nil _).symm
        | some t => rw [Option.elim, Scope.opening_push, Option.toList, Outline.traces_singleton]
      rw [List.foldl_cons, ih, Option.toList, Outline.traces_singleton, Scope.trace_close, hinner,
        Scope.openings, List.length_cons, List.replicate_succ]
      simp only [List.append_assoc, List.cons_append, List.nil_append]

/-- Finishing a draft gives a program with the draft's marks and one close for each open scope. -/
theorem traces_finish (d : Draft) :
    ∃ body, d.finish = .program body ∧
      Outline.traces body = d.opening ++ List.replicate d.unclosed .leave := by
  refine ⟨_, rfl, ?_⟩
  rw [List.reverse_append, Outline.traces_append]
  have hrev : ∀ inner : Option Outline, inner.toList.reverse = inner.toList := by
    intro inner
    cases inner <;> rfl
  rw [hrev, traces_closeScopes, opening, unclosed, Option.toList, Outline.traces, List.append_nil,
    List.append_assoc]

/-- The outline of some effects is the program whose trace is their marks, put in balance. -/
theorem traces_finish_ofEvents (es : List Event) :
    ∃ body, (ofEvents es).finish = .program body ∧
      Outline.traces body = Mark.settle 0 (es.map Event.mark) := by
  obtain ⟨body, hbody, htraces⟩ := traces_finish (ofEvents es)
  refine ⟨body, hbody, ?_⟩
  rw [htraces, ofEvents, opening_foldl_apply]
  rfl

end Draft

/-- The trace of a source text's outline: its lines' marks, put in balance, inside a program. -/
theorem Outline.trace_ofSource (rules : LineRules) (source : Text) :
    (Outline.ofSource rules source).trace
      = .program :: (Mark.settle 0
          ((source.splitOn '\n').flatMap fun line => (rules.tags line).marks) ++ [.leave]) := by
  obtain ⟨body, hbody, htraces⟩ := Draft.traces_finish_ofEvents (rules.events source)
  rw [← LineRules.map_mark_events, ← htraces]
  exact congrArg Outline.trace hbody

/-- **The outline is the text's own nesting.**  For all rules and every source text, balanced or
    not, the outline is a program, and the trace of its body is the marks of the lines in their
    order, less the closes that find no open scope and with a close for each scope that is left
    open.  No other outline has that trace. -/
theorem Outline.ofSource_trace (rules : LineRules) (source : Text) :
    (∃ body, Outline.ofSource rules source = .program body ∧
      Outline.traces body
        = Mark.settle 0 ((source.splitOn '\n').flatMap fun line => (rules.tags line).marks)) ∧
    ∀ t : Outline, t.trace = (Outline.ofSource rules source).trace →
      t = Outline.ofSource rules source := by
  refine ⟨?_, fun t ht => Outline.trace_injective ht⟩
  obtain ⟨body, hbody, htraces⟩ := Draft.traces_finish_ofEvents (rules.events source)
  refine ⟨body, hbody, ?_⟩
  rw [htraces, LineRules.map_mark_events]

end OrderOfGrowth
