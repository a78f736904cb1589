import Mathlib.Algebra.Ring.Int.Defs
import Mathlib.Data.List.Induction
import OrderOfGrowth.Proofs.Composition
import OrderOfGrowth.Proofs.Trace

/-! # Braces — how many closes are ignored, and how many scopes stay open

    Every line opens some scopes and may close one.  The number of open scopes follows the sum of
    what was opened less what was closed, but it cannot fall below zero: there a close is ignored,
    and the walk goes on from zero.  How often that happened is the deepest point that the sum has
    reached (`Draft.accounts_ofEvents`):

    * `Draft.unclosed_line` and `Draft.ignoredCloses_line` say what one line does to the two
      numbers, and nothing else is used of it;
    * the invariant couples them: the open scopes are the ignored closes less the excess of closes
      so far, so a new deepest point is reached just when a close finds no open scope.

    The second half is about the stack on which the program lies at the bottom like any other open
    node, and where a close has to leave it alone.  A draft is that stack with the program taken out
    (`Draft.openNodes_apply`), so the program is always there. -/

namespace OrderOfGrowth

/-! ## What a line opens and closes -/

namespace LineTags

/-- The number of scopes that a line opens. -/
def opens (t : LineTags) : Nat := t.opensLoop.toNat + t.opensFunction.toNat

/-- The number of scopes that a line closes. -/
def closings (t : LineTags) : Nat := t.closes.toNat

/-- The closes of some lines less the scopes that they open. -/
def excess (lines : List LineTags) : Int := (lines.map fun t => (t.closings : Int) - t.opens).sum

theorem excess_concat (lines : List LineTags) (t : LineTags) :
    excess (lines ++ [t]) = excess lines + (t.closings - t.opens) := by
  rw [excess, List.map_append, List.sum_append, List.map_singleton, List.sum_singleton]
  rfl

theorem excess_eq (lines : List LineTags) :
    excess lines = ((lines.map closings).sum : Nat) - ((lines.map opens).sum : Nat) := by
  induction lines with
  | nil => rfl
  | cons t lines ih =>
      rw [excess, List.map_cons, List.sum_cons, ← excess, ih, List.map_cons, List.sum_cons,
        List.map_cons, List.sum_cons]
      omega

end LineTags

namespace Draft

theorem unclosed_close (d : Draft) : d.close.unclosed = d.unclosed - 1 := by
  obtain ⟨finished, scopes, ignored⟩ := d
  cases scopes with
  | nil => rfl
  | cons s outer => exact unclosed_push ⟨finished, outer, ignored⟩ s.close

/-- A close is ignored if no scope is open. -/
theorem ignoredCloses_close (d : Draft) :
    d.close.ignoredCloses = d.ignoredCloses + (1 - d.unclosed) := by
  obtain ⟨finished, scopes, ignored⟩ := d
  cases scopes with
  | nil => rfl
  | cons s outer =>
      rw [show (Draft.mk finished (s :: outer) ignored).unclosed = outer.length + 1 from rfl,
        show 1 - (outer.length + 1) = 0 by omega]
      exact ignoredCloses_push ⟨finished, outer, ignored⟩ s.close

theorem unclosed_foldl_push (row : List Outline) (d : Draft) :
    (row.foldl push d).unclosed = d.unclosed := by
  induction row generalizing d with
  | nil => rfl
  | cons t row ih => rw [List.foldl_cons, ih, unclosed_push]

theorem ignoredCloses_foldl_push (row : List Outline) (d : Draft) :
    (row.foldl push d).ignoredCloses = d.ignoredCloses := by
  induction row generalizing d with
  | nil => rfl
  | cons t row ih => rw [List.foldl_cons, ih, ignoredCloses_push]

/-- A line opens its scopes, which changes one of the numbers alone, and then may close one. -/
theorem exists_foldl_line (d : Draft) (t : LineTags) :
    ∃ inner : Draft, inner.unclosed = d.unclosed + t.opens ∧
      inner.ignoredCloses = d.ignoredCloses ∧
      t.events.foldl apply d = if t.closes then inner.close else inner := by
  refine ⟨t.leaves.foldl push (((if t.opensLoop then [Event.enter .loop] else []) ++
    (if t.opensFunction then [Event.enter (.function t.functionName)] else [])).foldl apply d),
    ?_, ?_, ?_⟩
  · rw [unclosed_foldl_push]
    cases hl : t.opensLoop <;> cases hf : t.opensFunction <;>
      simp [LineTags.opens, hl, hf, apply, unclosed]
  · rw [ignoredCloses_foldl_push]
    cases t.opensLoop <;> cases t.opensFunction <;> rfl
  · rw [LineTags.events, List.foldl_append, List.append_assoc, List.foldl_append,
      foldl_apply_leaves]
    cases t.closes <;> rfl

theorem unclosed_line (d : Draft) (t : LineTags) :
    (t.events.foldl apply d).unclosed = d.unclosed + t.opens - t.closings := by
  obtain ⟨inner, hunclosed, -, hrun⟩ := exists_foldl_line d t
  rw [hrun, LineTags.closings, ← hunclosed]
  cases t.closes with
  | false => rfl
  | true => exact unclosed_close inner

theorem ignoredCloses_line (d : Draft) (t : LineTags) :
    (t.events.foldl apply d).ignoredCloses
      = d.ignoredCloses + (t.closings - (d.unclosed + t.opens)) := by
  obtain ⟨inner, hunclosed, hignored, hrun⟩ := exists_foldl_line d t
  rw [hrun, LineTags.closings, ← hunclosed, ← hignored]
  cases t.closes with
  | false =>
      rw [Bool.toNat_false, Nat.zero_sub]
      rfl
  | true => exact ignoredCloses_close inner

/-! ## The walk that stops at zero -/

/-- What some lines leave open, and which of their closes are ignored. -/
structure Accounts (lines : List LineTags) (d : Draft) : Prop where
  /-- The open scopes are the ignored closes less the excess of closes. -/
  unclosed : (d.unclosed : Int) = d.ignoredCloses - LineTags.excess lines
  /-- The ignored closes are the greatest excess on the way. -/
  ignored : IsGreatest {x : Int | ∃ before, before <+: lines ∧ x = LineTags.excess before}
    d.ignoredCloses

theorem accounts_empty : Accounts [] empty where
  unclosed := rfl
  ignored := by
    refine ⟨⟨[], List.prefix_rfl, rfl⟩, ?_⟩
    rintro x ⟨before, hbefore, rfl⟩
    rw [List.prefix_nil.mp hbefore]
    exact Int.le_refl 0

theorem Accounts.line {lines : List LineTags} {d : Draft} (h : Accounts lines d) (t : LineTags) :
    Accounts (lines ++ [t]) (t.events.foldl apply d) := by
  obtain ⟨hopen, ⟨before, hbefore, hreached⟩, hbound⟩ := h
  have hunclosed := unclosed_line d t
  have hignored := ignoredCloses_line d t
  have hexcess := LineTags.excess_concat lines t
  have hopen' : ((t.events.foldl apply d).unclosed : Int)
      = (t.events.foldl apply d).ignoredCloses - LineTags.excess (lines ++ [t]) := by
    omega
  refine ⟨hopen', ?_, ?_⟩
  · by_cases hfound : t.closings ≤ d.unclosed + t.opens
    · -- nothing is ignored, so the greatest excess lies where it was
      refine ⟨before, hbefore.trans (List.prefix_append lines [t]), ?_⟩
      omega
    · -- a close is ignored, and nothing is open behind it: this is the new deepest point
      refine ⟨lines ++ [t], List.prefix_rfl, ?_⟩
      omega
  · rintro x ⟨before', hbefore', rfl⟩
    rcases List.prefix_concat_iff.mp hbefore' with rfl | hbefore'
    · omega
    · have hle := hbound ⟨before', hbefore', rfl⟩
      omega

theorem accounts_ofEvents (lines : List LineTags) :
    Accounts lines (ofEvents (lines.flatMap LineTags.events)) := by
  induction lines using List.reverseRecOn with
  | nil => exact accounts_empty
  | append_singleton lines t ih =>
      rw [List.flatMap_append, List.flatMap_singleton, ofEvents, List.foldl_append]
      exact ih.line t

end Draft

/-! ## The stack with the program in it -/

/-- An outline with one more child behind the others; a leaf takes none. -/
def Outline.addChild : Outline → Outline → Outline
  | .program body, t => .program (body ++ [t])
  | .loop body, t => .loop (body ++ [t])
  | .function name body, t => .function name (body ++ [t])
  | .allocation count, _ => .allocation count
  | .call name, _ => .call name

theorem Scope.close_push (s : Scope) (t : Outline) : (s.push t).close = s.close.addChild t := by
  obtain ⟨opener, body⟩ := s
  cases opener <;> simp [push, close, Outline.addChild]

/-- The nodes that are open, the innermost first.  The program is one of them. -/
abbrev OpenNodes := List Outline

namespace OpenNodes

/-- Adds a node to the innermost open one. -/
def append (stack : OpenNodes) (t : Outline) : OpenNodes :=
  match stack with
  | [] => []
  | top :: below => top.addChild t :: below

/-- Takes the innermost node off the stack and adds it to its parent, unless it has none. -/
def close? : OpenNodes → Option OpenNodes
  | closed :: parent :: below => some (append (parent :: below) closed)
  | _ => none

/-- Applies one effect; a close that is refused changes nothing. -/
def apply (stack : OpenNodes) : Event → OpenNodes
  | .enter opener => opener.outline [] :: stack
  | .allocation => stack.append (.allocation 1)
  | .call name => stack.append (.call name)
  | .leave => stack.close?.getD stack

/-- The open nodes after some effects; at first, only the program is open. -/
def ofEvents (events : List Event) : OpenNodes := events.foldl apply [.program []]

theorem length_lt_of_close? {stack stack' : OpenNodes} (h : stack.close? = some stack') :
    stack'.length < stack.length := by
  match stack with
  | [] | [_] => exact nomatch h
  | closed :: parent :: below =>
      obtain rfl := Option.some.inj h
      exact Nat.lt_succ_self _

/-- Closes until a close is refused. -/
def closeAll (stack : OpenNodes) : OpenNodes :=
  match _h : stack.close? with
  | none => stack
  | some stack' => closeAll stack'
termination_by stack.length
decreasing_by exact length_lt_of_close? _h

theorem closeAll_of_none {stack : OpenNodes} (h : stack.close? = none) : stack.closeAll = stack := by
  rw [closeAll]
  split
  · rfl
  · next hsome => exact nomatch h.symm.trans hsome

theorem closeAll_of_some {stack stack' : OpenNodes} (h : stack.close? = some stack') :
    stack.closeAll = stack'.closeAll := by
  rw [closeAll]
  split
  · next hnone => exact nomatch h.symm.trans hnone
  · next hsome => rw [Option.some.inj (h.symm.trans hsome)]

end OpenNodes

namespace Draft

/-- What is open in a draft, with the program at the bottom. -/
def openNodes (d : Draft) : OpenNodes := d.scopes.map Scope.close ++ [.program d.finished.reverse]

theorem openNodes_push (d : Draft) (t : Outline) :
    (d.push t).openNodes = d.openNodes.append t := by
  obtain ⟨finished, scopes, ignored⟩ := d
  cases scopes with
  | nil => simp [push, openNodes, OpenNodes.append, Outline.addChild]
  | cons s outer => simp [push, openNodes, OpenNodes.append, Scope.close_push]

/-- With a scope open, closing it is one close of the stack. -/
theorem close?_openNodes (d : Draft) :
    d.openNodes.close? = if d.scopes = [] then none else some d.close.openNodes := by
  obtain ⟨finished, scopes, ignored⟩ := d
  match scopes with
  | [] => rfl
  | [s] => exact congrArg some (openNodes_push ⟨finished, [], ignored⟩ s.close).symm
  | s :: s' :: outer =>
      exact congrArg some (openNodes_push ⟨finished, s' :: outer, ignored⟩ s.close).symm

/-- A draft does to its open nodes what the stack does. -/
theorem openNodes_apply (d : Draft) (e : Event) : (d.apply e).openNodes = d.openNodes.apply e := by
  cases e with
  | enter opener => cases opener <;> rfl
  | allocation => exact openNodes_push d _
  | call name => exact openNodes_push d _
  | leave =>
      obtain ⟨finished, scopes, ignored⟩ := d
      cases scopes with
      | nil => rfl
      | cons s outer =>
          rw [OpenNodes.apply, close?_openNodes, if_neg (List.cons_ne_nil s outer)]
          rfl

theorem openNodes_foldl_apply (es : List Event) (d : Draft) :
    (es.foldl apply d).openNodes = es.foldl OpenNodes.apply d.openNodes := by
  induction es generalizing d with
  | nil => rfl
  | cons e es ih => rw [List.foldl_cons, ih, openNodes_apply, List.foldl_cons]

/-- Closing the innermost scope does not change what a draft is finished to. -/
theorem finish_close {d : Draft} (h : d.scopes ≠ []) : d.close.finish = d.finish := by
  obtain ⟨finished, scopes, ignored⟩ := d
  match scopes with
  | [] => exact absurd rfl h
  | [s] => rfl
  | s :: s' :: outer => rfl

/-- Closing all open nodes leaves the program, which is what the draft is finished to. -/
theorem closeAll_openNodes (d : Draft) : d.openNodes.closeAll = [d.finish] := by
  induction hn : d.unclosed generalizing d with
  | zero =>
      have hscopes : d.scopes = [] := List.length_eq_zero_iff.mp hn
      have hrefused : d.openNodes.close? = none := by rw [close?_openNodes, if_pos hscopes]
      rw [OpenNodes.closeAll_of_none hrefused, openNodes, hscopes, finish_of_scopes_nil hscopes]
      rfl
  | succ n ih =>
      have hscopes : d.scopes ≠ [] := by
        intro hnil
        rw [unclosed, hnil] at hn
        exact Nat.succ_ne_zero n hn.symm
      have hclosed : d.openNodes.close? = some d.close.openNodes := by
        rw [close?_openNodes, if_neg hscopes]
      have hless : d.close.unclosed = n := by
        rw [unclosed_close, hn, Nat.add_sub_cancel]
      rw [OpenNodes.closeAll_of_some hclosed, ih d.close hless, finish_close hscopes]

end Draft

/-- **Every brace is accounted for.**  For all rules and every source text:

    * the closes that are ignored are as many as the greatest excess of closes over opened scopes
      among all first parts of its lines, the empty one included;
    * the scopes left open are those that were opened, less the closes, and with the ignored closes
      added back.

    On the stack that has the program at its bottom, the program is never closed: after each number
    of effects the stack is the open scopes of the draft with the program below them.  So there is
    one node more on it than scopes are left open, and closing all that can be closed leaves one
    node, the program that is the outline. -/
theorem Reading.ofSource_braces (rules : LineRules) (source : Text) :
    let lines := (source.splitOn '\n').map rules.tags
    let reading := Reading.ofSource rules source
    let stack := OpenNodes.ofEvents (rules.events source)
    IsGreatest {x : Int | ∃ before, before <+: lines ∧ x = LineTags.excess before}
      reading.ignoredCloses ∧
    (reading.unclosed : Int)
      = (lines.map LineTags.opens).sum - (lines.map LineTags.closings).sum
        + reading.ignoredCloses ∧
    (∀ n, let draft := Draft.ofEvents ((rules.events source).take n)
      OpenNodes.ofEvents ((rules.events source).take n)
        = draft.scopes.map Scope.close ++ [.program draft.finished.reverse]) ∧
    stack.length = reading.unclosed + 1 ∧
    stack.closeAll = [reading.outline] := by
  intro lines reading stack
  have hevents : rules.events source = lines.flatMap LineTags.events := by
    rw [LineRules.events, Text.lines, List.flatMap_map]
  have hstack : ∀ es, OpenNodes.ofEvents es = (Draft.ofEvents es).openNodes := by
    intro es
    exact (Draft.openNodes_foldl_apply es .empty).symm
  have haccounts := Draft.accounts_ofEvents lines
  rw [← hevents] at haccounts
  refine ⟨haccounts.ignored, ?_, ?_, ?_, ?_⟩
  · have hopen := haccounts.unclosed
    rw [LineTags.excess_eq] at hopen
    show ((Draft.ofEvents (rules.events source)).unclosed : Int)
      = (lines.map LineTags.opens).sum - (lines.map LineTags.closings).sum
        + (Draft.ofEvents (rules.events source)).ignoredCloses
    omega
  · intro n
    exact hstack _
  · rw [show stack = _ from hstack _, Draft.openNodes, List.length_append, List.length_map]
    rfl
  · rw [show stack = _ from hstack _]
    exact Draft.closeAll_openNodes _

example :
    let reading := Reading.ofSource .standard
      "\x7d\nfor (;;) \x7b\n\x7d\n\x7d\nfunction f() \x7b".toList
    reading.ignoredCloses = 2 ∧ reading.unclosed = 1 := by decide

end OrderOfGrowth
