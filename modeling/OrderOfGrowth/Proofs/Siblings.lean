import OrderOfGrowth.Estimate
import OrderOfGrowth.Proofs.Composition
import OrderOfGrowth.Proofs.OnePass

/-! # Siblings — neighbouring blocks in either order

    A balanced text can be moved past another one without a change in the estimate, whatever stands
    around the two.  The outlines do change, so the argument runs on the pass over the effects,
    which remembers no outline:

    * no close of a balanced text is ignored, so its effects have the marks of its own nodes and no
      others (`LineRules.Balanced.map_mark_events`);
    * a pass over such effects is a pass over the nodes (`Pass.foldl_apply_balanced`): it finds the
      stack as it was and counts each node against that same stack;
    * counting rows of nodes against one stack commutes (`Pass.after_comm`). -/

namespace OrderOfGrowth

/-! ## Effects that are all heeded -/

namespace Draft

/-- An effect that is heeded adds its own mark. -/
theorem opening_apply_of_heeded {d : Draft} {e : Event}
    (h : (d.apply e).ignoredCloses = d.ignoredCloses) :
    (d.apply e).opening = d.opening ++ [e.mark] := by
  cases e with
  | enter opener =>
      simp only [apply, opening, Scope.openings, Scope.opening, List.reverse_nil, Outline.traces,
        Event.mark, List.append_assoc]
  | allocation => exact opening_push d _
  | call name => exact opening_push d _
  | leave =>
      obtain ⟨finished, scopes, ignored⟩ := d
      cases scopes with
      | nil => exact absurd h (Nat.succ_ne_self ignored)
      | cons s outer =>
          rw [show (Draft.mk finished (s :: outer) ignored).apply .leave
            = (Draft.mk finished outer ignored).push s.close from rfl]
          rw [opening_push, Scope.trace_close]
          simp only [opening, Scope.openings, Event.mark, List.append_assoc]

/-- Effects that are all heeded add their own marks. -/
theorem opening_foldl_apply_of_heeded {d : Draft} {es : List Event}
    (h : (es.foldl apply d).ignoredCloses = d.ignoredCloses) :
    (es.foldl apply d).opening = d.opening ++ es.map Event.mark := by
  induction es generalizing d with
  | nil => exact (List.append_nil _).symm
  | cons e es ih =>
      rw [List.foldl_cons] at h ⊢
      -- the count of ignored closes never falls, so it stands still in each part
      have hfirst := ignoredCloses_le_apply d e
      have hrest := ignoredCloses_le_foldl_apply es (d.apply e)
      have hstep : (d.apply e).ignoredCloses = d.ignoredCloses := by omega
      rw [ih (by omega), opening_apply_of_heeded hstep, List.map_cons, List.append_assoc]
      rfl

end Draft

/-- The effects of a balanced text have the marks of its nodes, and no others. -/
theorem LineRules.Balanced.map_mark_events {rules : LineRules} {source : Text}
    (h : rules.Balanced source) :
    (rules.events source).map Event.mark
      = Outline.traces (Outline.ofSource rules source).children := by
  have hmarks : (Draft.ofEvents (rules.events source)).opening
      = Draft.empty.opening ++ (rules.events source).map Event.mark :=
    Draft.opening_foldl_apply_of_heeded h.1
  rw [Draft.ofEvents_of_balanced h] at hmarks
  simp only [Draft.opening, List.reverse_reverse, Scope.openings, List.append_nil] at hmarks
  exact hmarks.symm

/-! ## A pass over balanced texts -/

namespace Pass

/-- A balanced text leaves the stack as it was, and its nodes are counted against it. -/
theorem foldl_apply_balanced {rules : LineRules} {source : Text} (h : rules.Balanced source)
    {p : Pass} (hp : p.loops ≤ p.deepest) :
    (rules.events source).foldl apply p = p.after (Outline.ofSource rules source).children :=
  foldl_apply_row (fun u _ => foldl_apply_of_trace u) hp h.map_mark_events

/-- Rows of nodes that are counted against one stack can be counted in either order. -/
theorem after_comm (p : Pass) (row more : List Outline) :
    (p.after row).after more = (p.after more).after row := by
  simp only [after, loops, Pass.mk.injEq, true_and]
  refine ⟨?_, ?_, ?_⟩
  · exact Nat.max_right_comm _ _ _
  · exact Nat.add_right_comm _ _ _
  · exact Bool.or_right_comm _ _ _

/-- Two balanced texts can be passed in either order. -/
theorem foldl_apply_balanced_comm {rules : LineRules} {a b : Text} (ha : rules.Balanced a)
    (hb : rules.Balanced b) {p : Pass} (hp : p.loops ≤ p.deepest) :
    (rules.events b).foldl apply ((rules.events a).foldl apply p)
      = (rules.events a).foldl apply ((rules.events b).foldl apply p) := by
  rw [foldl_apply_balanced ha hp, foldl_apply_balanced hb (loops_after_le p _),
    foldl_apply_balanced hb hp, foldl_apply_balanced ha (loops_after_le p _), after_comm]

end Pass

/-- Two balanced texts in a row can change places without a change in the tally. -/
theorem Outline.tally_swapped {rules : LineRules} (before after : Text) {a b : Text}
    (ha : rules.Balanced a) (hb : rules.Balanced b) :
    (ofSource rules (before ++ '\n' :: (a ++ '\n' :: (b ++ '\n' :: after)))).tally
      = (ofSource rules (before ++ '\n' :: (b ++ '\n' :: (a ++ '\n' :: after)))).tally := by
  have hstart : Pass.start.loops ≤ Pass.start.deepest := Nat.le_refl 0
  have hbefore := Pass.loops_foldl_apply_le hstart (rules.events before)
  simp only [ofSource, Reading.ofSource, Pass.tally_finish_ofEvents,
    LineRules.events_append_newline, List.foldl_append]
  rw [Pass.foldl_apply_balanced_comm ha hb hbefore]

/-- **Neighbouring blocks can change places.**  For all rules, two balanced texts that follow each
    other have the same estimate in either order, tally and labels alike, whatever scopes are open
    before them and whatever is closed behind them. -/
theorem Outline.estimate_swapped (rules : LineRules) (before a b after : Text)
    (ha : rules.Balanced a) (hb : rules.Balanced b) :
    (ofSource rules (before ++ '\n' :: (a ++ '\n' :: (b ++ '\n' :: after)))).estimate
      = (ofSource rules (before ++ '\n' :: (b ++ '\n' :: (a ++ '\n' :: after)))).estimate := by
  rw [estimate, estimate, tally_swapped before after ha hb]

/-- A call of the function that is open, and a loop with a loop in it, change places inside the
    function; the text before them ignores a close, and the text behind them closes too much. -/
theorem Outline.estimate_swapped_call :
    let rules : LineRules := ⟨Keywords.standard, true⟩
    let before := "\x7d\nfunction f(n) \x7b\nfor (;;) \x7b\n\x7d".toList
    let a := "new Map();\nf(n);".toList
    let b := "for (;;) \x7b\nfor (;;) \x7b\nf(n);\n\x7d\n\x7d".toList
    let after := "\x7d\n\x7d\nfor (;;) \x7b".toList
    rules.Balanced a ∧ rules.Balanced b ∧
    (ofSource rules (before ++ '\n' :: (a ++ '\n' :: (b ++ '\n' :: after)))).estimate
      = (ofSource rules (before ++ '\n' :: (b ++ '\n' :: (a ++ '\n' :: after)))).estimate := by
  intro rules before a b after
  have ha : rules.Balanced a := ⟨by decide +kernel, by decide +kernel⟩
  have hb : rules.Balanced b := ⟨by decide +kernel, by decide +kernel⟩
  exact ⟨ha, hb, estimate_swapped rules before a b after ha hb⟩

end OrderOfGrowth
