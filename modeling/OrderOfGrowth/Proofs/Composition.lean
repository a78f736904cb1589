import OrderOfGrowth.Outline.Draft
import OrderOfGrowth.Proofs.Lines
import OrderOfGrowth.Proofs.Traversal

/-! # Composition — the outlines of texts that are put together

    A draft is a stack, and an effect works at its top.  Effects can therefore be run from nothing
    and put on top of what was there before (`Draft.atop`), as long as they never reach below their
    own base.  There are two reasons why they do not:

    * no scope is open below, so a close that finds none is ignored either way: texts one after the
      other (`children_ofSource_append`);
    * no close of theirs is ignored when they are run from nothing: texts inside a scope
      (`Draft.ofEvents_inside`).

    `Draft.apply_atop` is the step for both, and `Draft.foldl_apply_atop` the run. -/

namespace OrderOfGrowth

/-! ## Drafts on top of drafts -/

namespace Draft

/-- Adds a row of nodes, the latest first, to the innermost open scope. -/
def pushRow (d : Draft) (row : List Outline) : Draft :=
  match d.scopes with
  | [] => { d with finished := row ++ d.finished }
  | s :: outer => { d with scopes := { s with body := row ++ s.body } :: outer }

/-- What a draft holds, on top of another: its finished nodes go to the innermost scope that is open
    below, and its open scopes lie above the others. -/
def atop (top base : Draft) : Draft where
  finished := (base.pushRow top.finished).finished
  scopes := top.scopes ++ (base.pushRow top.finished).scopes
  ignoredCloses := base.ignoredCloses + top.ignoredCloses

theorem empty_atop (base : Draft) : empty.atop base = base := by
  obtain ⟨finished, scopes, ignored⟩ := base
  cases scopes <;> rfl

theorem push_atop (top base : Draft) (t : Outline) :
    (top.atop base).push t = (top.push t).atop base := by
  obtain ⟨finished, scopes, ignored⟩ := base
  obtain ⟨finished', scopes', ignored'⟩ := top
  cases scopes' with
  | nil => cases scopes <;> rfl
  | cons s outer => rfl

/-- An effect on top is an effect on the whole, unless it closes what lies below. -/
theorem apply_atop {top base : Draft} {e : Event}
    (h : base.scopes = [] ∨ (top.apply e).ignoredCloses = top.ignoredCloses) :
    (top.atop base).apply e = (top.apply e).atop base := by
  cases e with
  | enter opener => rfl
  | allocation => exact push_atop top base _
  | call name => exact push_atop top base _
  | leave =>
      obtain ⟨finished, scopes, ignored⟩ := top
      cases scopes with
      | nil =>
          -- the close finds nothing on top, so nothing may be open below
          have hbase : base.scopes = [] := by
            rcases h with h | h
            · exact h
            · exact absurd h (Nat.succ_ne_self ignored)
          obtain ⟨finished', scopes', ignored'⟩ := base
          simp only at hbase
          subst hbase
          rfl
      | cons s outer => exact push_atop ⟨finished, outer, ignored⟩ base s.close

theorem ignoredCloses_push (d : Draft) (t : Outline) :
    (d.push t).ignoredCloses = d.ignoredCloses := by
  obtain ⟨finished, scopes, ignored⟩ := d
  cases scopes <;> rfl

/-- Ignored closes are never forgotten. -/
theorem ignoredCloses_le_apply (d : Draft) (e : Event) :
    d.ignoredCloses ≤ (d.apply e).ignoredCloses := by
  cases e with
  | enter opener => exact Nat.le_refl _
  | allocation => rw [apply, ignoredCloses_push]
  | call name => rw [apply, ignoredCloses_push]
  | leave =>
      obtain ⟨finished, scopes, ignored⟩ := d
      cases scopes with
      | nil => exact Nat.le_succ _
      | cons s outer =>
          rw [show apply ⟨finished, s :: outer, ignored⟩ .leave
            = push ⟨finished, outer, ignored⟩ s.close from rfl, ignoredCloses_push]

theorem ignoredCloses_le_foldl_apply (es : List Event) (d : Draft) :
    d.ignoredCloses ≤ (es.foldl apply d).ignoredCloses := by
  induction es generalizing d with
  | nil => exact Nat.le_refl _
  | cons e es ih => exact (ignoredCloses_le_apply d e).trans (ih (d.apply e))

/-- A run on top is a run on the whole, unless it closes what lies below. -/
theorem foldl_apply_atop (es : List Event) (top : Draft) {base : Draft}
    (h : base.scopes = [] ∨ (es.foldl apply top).ignoredCloses = top.ignoredCloses) :
    es.foldl apply (top.atop base) = (es.foldl apply top).atop base := by
  induction es generalizing top with
  | nil => rfl
  | cons e es ih =>
      rw [List.foldl_cons] at h
      have hstep := ignoredCloses_le_apply top e
      have hrest := ignoredCloses_le_foldl_apply es (top.apply e)
      rw [List.foldl_cons, List.foldl_cons, apply_atop (h.imp_right (by omega)),
        ih (top.apply e) (h.imp_right (by omega))]

/-- Effects after others are run from nothing and put on top of what the others left. -/
theorem foldl_apply_eq_atop (es : List Event) (base : Draft)
    (h : base.scopes = [] ∨ (ofEvents es).ignoredCloses = 0) :
    es.foldl apply base = (ofEvents es).atop base := by
  have hrun := foldl_apply_atop es empty h
  rwa [empty_atop] at hrun

/-- On top of a draft without open scopes, the finished nodes stand in front. -/
theorem finish_atop (top : Draft) {base : Draft} (h : base.scopes = []) :
    (top.atop base).finish = .program (base.finished.reverse ++ top.finish.children) := by
  obtain ⟨finished, scopes, ignored⟩ := base
  simp only at h
  subst h
  simp only [atop, pushRow, finish, Outline.children, List.append_nil, List.reverse_append,
    List.append_assoc]

theorem finish_of_scopes_nil {d : Draft} (h : d.scopes = []) :
    d.finish = .program d.finished.reverse := by
  rw [finish, h]
  rfl

end Draft

/-! ## Texts one after the other -/

namespace LineRules

variable (rules : LineRules)

/-- The effects of two texts with a line feed between them. -/
theorem events_append_newline (a b : Text) :
    rules.events (a ++ '\n' :: b) = rules.events a ++ rules.events b := by
  rw [events, events, events, Text.lines, Text.splitOn_append_newline, List.flatMap_append]
  rfl

theorem events_line {line : Text} (h : '\n' ∉ line) :
    rules.events line = (rules.tags line).events := by
  rw [events, Text.lines, List.splitOn_eq_singleton h, List.flatMap_singleton]

end LineRules

namespace Outline

/-- A program adds to a tally what its children add. -/
theorem tally_program (body : List Outline) : (program body).tally = Tally.zero.after body := by
  rw [tally_eq_after]
  simp [Tally.after]

/-- The tally of a program whose children come in two parts. -/
theorem tally_program_append (body more : List Outline) :
    (program (body ++ more)).tally =
      { deepest := max (program body).tally.deepest (program more).tally.deepest
        depth := 0
        recursive := (program body).tally.recursive || (program more).tally.recursive
        allocations := (program body).tally.allocations + (program more).tally.allocations } := by
  rw [tally_program, tally_program, tally_program]
  simp [Tally.after, Tally.zero, loopDepths_append, nodesOf_append]

variable (rules : LineRules)

theorem ofSource_eq_program (source : Text) :
    ofSource rules source = program (ofSource rules source).children := rfl

/-- If the first text leaves no scope open, the nodes of the second follow those of the first. -/
theorem children_ofSource_append {a : Text} (b : Text)
    (h : (Reading.ofSource rules a).unclosed = 0) :
    (ofSource rules (a ++ '\n' :: b)).children
      = (ofSource rules a).children ++ (ofSource rules b).children := by
  have hscopes : (Draft.ofEvents (rules.events a)).scopes = [] := List.length_eq_zero_iff.mp h
  have hrun : Draft.ofEvents (rules.events (a ++ '\n' :: b))
      = (Draft.ofEvents (rules.events b)).atop (Draft.ofEvents (rules.events a)) := by
    rw [LineRules.events_append_newline, Draft.ofEvents, List.foldl_append]
    exact Draft.foldl_apply_eq_atop _ _ (Or.inl hscopes)
  have hfirst : (ofSource rules a).children
      = (Draft.ofEvents (rules.events a)).finished.reverse := by
    rw [ofSource, Reading.ofSource, Draft.finish_of_scopes_nil hscopes]
    rfl
  rw [hfirst, ofSource, Reading.ofSource, hrun, Draft.finish_atop _ hscopes]
  rfl

end Outline

/-! ## Texts inside a scope -/

/-- A text is balanced if it ignores no close and leaves no scope open. -/
def LineRules.Balanced (rules : LineRules) (source : Text) : Prop :=
  (Reading.ofSource rules source).ignoredCloses = 0 ∧ (Reading.ofSource rules source).unclosed = 0

/-- The outline that an opener opens. -/
def Opener.outline : Opener → List Outline → Outline
  | .loop, body => .loop body
  | .function name, body => .function name body

namespace LineTags

/-- The scope that a line opens, if it opens just one. -/
def soleOpener? (t : LineTags) : Option Opener :=
  match t.opensLoop, t.opensFunction with
  | true, false => some .loop
  | false, true => some (.function t.functionName)
  | _, _ => none

/-- The leaves that a line adds: its allocation, then its calls. -/
def leaves (t : LineTags) : List Outline :=
  (if t.allocates then [.allocation 1] else []) ++ t.calls.map .call

theorem loopDepths_leaves (t : LineTags) : Outline.loopDepths t.leaves = 0 := by
  have hcalls : Outline.loopDepths (t.calls.map .call) = 0 := by
    induction t.calls with
    | nil => rfl
    | cons name names ih => simp [ih]
  rw [leaves, Outline.loopDepths_append, hcalls]
  cases t.allocates <;> rfl

end LineTags

theorem Scope.close_eq_outline (s : Scope) : s.close = s.opener.outline s.body.reverse := by
  obtain ⟨opener, body⟩ := s
  cases opener <;> rfl

namespace Draft

/-- The leaves of a line are pushed one after the other. -/
theorem foldl_apply_leaves (d : Draft) (t : LineTags) :
    ((if t.allocates then [Event.allocation] else []) ++ t.calls.map Event.call).foldl apply d
      = t.leaves.foldl push d := by
  have hcalls : ∀ (names : List Text) (d : Draft),
      (names.map Event.call).foldl apply d = (names.map Outline.call).foldl push d := by
    intro names
    induction names with
    | nil => exact fun d => rfl
    | cons name names ih => exact fun d => ih _
  rw [LineTags.leaves, List.foldl_append, List.foldl_append, hcalls]
  cases t.allocates <;> rfl

/-- What is pushed goes to the innermost open scope. -/
theorem foldl_push_scope (s : Scope) (outer : List Scope) (row finished : List Outline)
    (ignored : Nat) :
    row.foldl push ⟨finished, s :: outer, ignored⟩
      = ⟨finished, ⟨s.opener, row.reverse ++ s.body⟩ :: outer, ignored⟩ := by
  induction row generalizing s with
  | nil => rfl
  | cons t row ih =>
      rw [List.foldl_cons, show push ⟨finished, s :: outer, ignored⟩ t
        = ⟨finished, s.push t :: outer, ignored⟩ from rfl, ih, List.reverse_cons, List.append_assoc]
      rfl

/-- A line that opens one scope leaves it open, with the line's own leaves in it. -/
theorem ofEvents_opening {t : LineTags} {opener : Opener} (ho : t.soleOpener? = some opener)
    (hc : t.closes = false) :
    ofEvents t.events = ⟨[], [⟨opener, t.leaves.reverse⟩], 0⟩ := by
  have hevents : t.events = .enter opener ::
      ((if t.allocates then [Event.allocation] else []) ++ t.calls.map .call) := by
    rw [LineTags.soleOpener?] at ho
    rw [LineTags.events, hc]
    split at ho
    · next hl hf =>
        obtain rfl := Option.some.inj ho
        simp [hl, hf]
    · next hl hf =>
        obtain rfl := Option.some.inj ho
        simp [hl, hf]
    · exact nomatch ho
  rw [ofEvents, hevents, List.foldl_cons, foldl_apply_leaves,
    show apply empty (.enter opener) = ⟨[], [⟨opener, []⟩], 0⟩ from rfl, foldl_push_scope,
    List.append_nil]

/-- A balanced text leaves its children finished, and nothing else. -/
theorem ofEvents_of_balanced {rules : LineRules} {source : Text} (h : rules.Balanced source) :
    ofEvents (rules.events source)
      = ⟨(Outline.ofSource rules source).children.reverse, [], 0⟩ := by
  obtain ⟨hignored, hunclosed⟩ := h
  have hscopes : (ofEvents (rules.events source)).scopes = [] :=
    List.length_eq_zero_iff.mp hunclosed
  have hchildren : (Outline.ofSource rules source).children
      = (ofEvents (rules.events source)).finished.reverse := by
    rw [Outline.ofSource, Reading.ofSource, finish_of_scopes_nil hscopes]
    rfl
  rw [hchildren, List.reverse_reverse, ← hscopes,
    ← show (ofEvents (rules.events source)).ignoredCloses = 0 from hignored]

end Draft

/-- A text between a line and a lone closing brace. -/
def Text.inside (line body : Text) : Text := line ++ '\n' :: (body ++ ['\n', '\x7d'])

/-- A line that opens one scope and does not close it. -/
structure LineRules.Opens (rules : LineRules) (line : Text) (opener : Opener) : Prop where
  oneLine : '\n' ∉ line
  opens : (rules.tags line).soleOpener? = some opener
  staysOpen : (rules.tags line).closes = false

section Inside

variable {rules : LineRules} (hclose : (rules.tags ['\x7d']).events = [.leave])
include hclose

/-- A balanced text inside a scope fills the scope and is left by its close. -/
theorem Draft.ofEvents_inside {line body : Text} {opener : Opener}
    (hline : rules.Opens line opener) (hbody : rules.Balanced body) :
    ofEvents (rules.events (line.inside body))
      = ⟨[opener.outline ((rules.tags line).leaves ++ (Outline.ofSource rules body).children)],
          [], 0⟩ := by
  have hbrace : rules.events ['\x7d'] = [.leave] := by
    rw [rules.events_line (by decide), hclose]
  have hevents : rules.events (line.inside body)
      = (rules.tags line).events ++ (rules.events body ++ [.leave]) := by
    rw [Text.inside, LineRules.events_append_newline, rules.events_line hline.oneLine,
      LineRules.events_append_newline, hbrace]
  have hrun := foldl_apply_eq_atop (rules.events body) (ofEvents (rules.tags line).events)
    (Or.inr hbody.1)
  rw [ofEvents, hevents, List.foldl_append, List.foldl_append]
  show apply (List.foldl apply (ofEvents (rules.tags line).events) _) .leave = _
  rw [hrun, ofEvents_of_balanced hbody, ofEvents_opening hline.opens hline.staysOpen]
  show Draft.mk [Scope.close _] [] 0 = _
  rw [Scope.close_eq_outline, List.reverse_append, List.reverse_reverse, List.reverse_reverse]

/-- The outline of a balanced text inside a scope is the scope alone. -/
theorem Outline.ofSource_inside {line body : Text} {opener : Opener}
    (hline : rules.Opens line opener) (hbody : rules.Balanced body) :
    Outline.ofSource rules (line.inside body)
      = .program [opener.outline
          ((rules.tags line).leaves ++ (Outline.ofSource rules body).children)] := by
  rw [Outline.ofSource, Reading.ofSource, Draft.ofEvents_inside hclose hline hbody]
  rfl

/-- A balanced text inside a scope is balanced again. -/
theorem LineRules.Balanced.inside {line body : Text} {opener : Opener}
    (hline : rules.Opens line opener) (hbody : rules.Balanced body) :
    rules.Balanced (line.inside body) := by
  rw [Balanced, Reading.ofSource, Draft.ofEvents_inside hclose hline hbody]
  exact ⟨rfl, rfl⟩

/-- A text inside loops is balanced if it was before, and each loop makes it one deeper. -/
theorem Outline.deepest_insideLoops {lines : List Text} {body : Text}
    (hlines : ∀ line ∈ lines, rules.Opens line .loop) (hbody : rules.Balanced body) :
    rules.Balanced (lines.foldr Text.inside body) ∧
    (Outline.ofSource rules (lines.foldr Text.inside body)).tally.deepest
      = lines.length + (Outline.ofSource rules body).tally.deepest := by
  induction lines with
  | nil => exact ⟨hbody, (Nat.zero_add _).symm⟩
  | cons line lines ih =>
      have hline := hlines line List.mem_cons_self
      obtain ⟨hinner, hdeep⟩ := ih fun l hl => hlines l (List.mem_cons_of_mem line hl)
      refine ⟨hinner.inside hclose hline, ?_⟩
      rw [List.foldr_cons, Outline.ofSource_inside hclose hline hinner, Outline.deepest_tally]
      rw [Outline.ofSource_eq_program, Outline.deepest_tally] at hdeep
      simp only [Outline.loopDepth, Outline.loopDepths, Opener.outline, Outline.loopDepths_append,
        LineTags.loopDepths_leaves] at hdeep ⊢
      rw [hdeep, List.length_cons]
      omega

end Inside

/-- **Outlines are compositional.**  For all rules:

    * if a text leaves no scope open, whatever closes it ignores and whatever the next text does,
      the nodes of the next text follow its own; so the deeper of the two depths counts,
      allocations add up, and one recursive text is enough;
    * a balanced text between a line that opens one scope and a lone brace has that scope for an
      outline, with the line's own leaves in front of the text's nodes;
    * a balanced text inside `k` loops is `k` deeper than before. -/
theorem Outline.ofSource_composed (rules : LineRules) :
    (∀ a b : Text, (Reading.ofSource rules a).unclosed = 0 →
      let joined := Outline.ofSource rules (a ++ '\n' :: b)
      let first := Outline.ofSource rules a
      let second := Outline.ofSource rules b
      joined.children = first.children ++ second.children ∧
      joined.tally.deepest = max first.tally.deepest second.tally.deepest ∧
      joined.tally.allocations = first.tally.allocations + second.tally.allocations ∧
      joined.tally.recursive = (first.tally.recursive || second.tally.recursive)) ∧
    ((rules.tags ['\x7d']).events = [.leave] →
      (∀ (line body : Text) (opener : Opener),
        rules.Opens line opener → rules.Balanced body →
        Outline.ofSource rules (line ++ '\n' :: (body ++ ['\n', '\x7d']))
          = .program [opener.outline
              ((rules.tags line).leaves ++ (Outline.ofSource rules body).children)]) ∧
      ∀ (lines : List Text) (body : Text),
        (∀ line ∈ lines, rules.Opens line .loop) → rules.Balanced body →
        (Outline.ofSource rules (lines.foldr Text.inside body)).tally.deepest
          = lines.length + (Outline.ofSource rules body).tally.deepest) := by
  refine ⟨fun a b h => ?_, fun hclose => ⟨?_, ?_⟩⟩
  · intro joined first second
    have hchildren : joined.children = first.children ++ second.children :=
      children_ofSource_append rules b h
    have htally := tally_program_append first.children second.children
    rw [← hchildren] at htally
    exact ⟨hchildren, congrArg Tally.deepest htally, congrArg Tally.allocations htally,
      congrArg Tally.recursive htally⟩
  · intro line body opener hline hbody
    exact ofSource_inside hclose hline hbody
  · intro lines body hlines hbody
    exact (deepest_insideLoops hclose hlines hbody).2

/-- A text with an ignored close before one that leaves a loop open, and a text with a loop of its
    own inside a function and inside two loops. -/
theorem Outline.ofSource_composed_loops :
    let a := "\x7d\nfor (;;) \x7b\n\x7d".toList
    let b := "for (;;) \x7b\nnew Map();".toList
    let body := "for (;;) \x7b\n\x7d".toList
    let line := "function newMap() \x7b".toList
    let loops := ["for (;;) \x7b".toList, "for (x of new Set()) \x7b".toList]
    (Reading.ofSource .standard a).unclosed = 0 ∧
    (ofSource .standard (a ++ '\n' :: b)).children
      = (ofSource .standard a).children ++ (ofSource .standard b).children ∧
    LineRules.Opens .standard line (.function (some "newMap".toList)) ∧
    LineRules.Balanced .standard body ∧
    ofSource .standard (line ++ '\n' :: (body ++ ['\n', '\x7d']))
      = .program [.function (some "newMap".toList)
          (.allocation 1 :: (ofSource .standard body).children)] ∧
    (∀ line ∈ loops, LineRules.Opens .standard line .loop) ∧
    (ofSource .standard (loops.foldr Text.inside body)).tally.deepest
      = 2 + (ofSource .standard body).tally.deepest := by
  intro a b body line loops
  have ha : (Reading.ofSource .standard a).unclosed = 0 := by decide
  have hclose : (LineRules.standard.tags ['\x7d']).events = [.leave] := by decide
  have hline : LineRules.Opens .standard line (.function (some "newMap".toList)) :=
    ⟨by decide, by decide, by decide⟩
  have hbody : LineRules.Balanced .standard body := ⟨by decide, by decide⟩
  have hloops : ∀ line ∈ loops, LineRules.Opens .standard line .loop := by
    refine List.forall_mem_cons.mpr ⟨?_, List.forall_mem_singleton.mpr ?_⟩
    · exact ⟨by decide, by decide, by decide⟩
    · exact ⟨by decide, by decide, by decide⟩
  obtain ⟨hjoin, hinside⟩ := ofSource_composed .standard
  obtain ⟨hscope, hdeep⟩ := hinside hclose
  exact ⟨ha, (hjoin a b ha).1, hline, hbody, hscope line body _ hline hbody, hloops,
    hdeep loops body hloops hbody⟩

end OrderOfGrowth
