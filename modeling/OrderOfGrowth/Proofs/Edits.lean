import OrderOfGrowth.Proofs.OnePass

/-! # Edits — loop lines put in and closing braces left out

    A line that opens a loop makes a text deeper by one at most, and so does a closing brace that is
    left out; neither can make it shallower.  After such an edit every later brace may close another
    scope than before, so the two readings never agree again, and the outlines have little in
    common.  What relates them is the stack of open scopes:

    * the stack of the edited text is the other one with at most so many scopes more as there were
      edits, anywhere in it (`Opener.Padded`).  A close takes the top of both: if that was a scope
      too many, another one takes its place (`Padded.tail`);
    * a pass over the edited text keeps this up, line by line (`Pass.Padded.line`), and each edit
      costs one more scope (`Pass.Padded.loopLine`, `Pass.Padded.braceLine`);
    * so the depths differ by no more than the number of edits (`Edited.padded`). -/

namespace OrderOfGrowth

/-! ## Stacks with more scopes -/

/-- The second stack is the first one with at most `n` scopes more, anywhere in it. -/
structure Opener.Padded (n : Nat) (stack padded : List Opener) : Prop where
  sublist : stack.Sublist padded
  length_le : padded.length ≤ stack.length + n

namespace Opener.Padded

variable {n : Nat} {stack padded : List Opener} (h : Padded n stack padded)
include h

/-- Both stacks can open the same scopes. -/
theorem append (opened : List Opener) : Padded n (opened ++ stack) (opened ++ padded) := by
  refine ⟨h.sublist.append_left opened, ?_⟩
  have hlength := h.length_le
  rw [List.length_append, List.length_append]
  omega

/-- Both stacks can close their top.  The tops need not be the same: if the padded stack closes a
    scope that only it has, a scope that only the other one closes takes its place. -/
theorem tail : Padded n stack.tail padded.tail := by
  refine ⟨h.sublist.tail, ?_⟩
  have hlength := h.length_le
  rw [List.length_tail, List.length_tail]
  omega

/-- The padded stack alone can open a scope, which is one more. -/
theorem push (opener : Opener) : Padded (n + 1) stack (opener :: padded) := by
  refine ⟨h.sublist.cons opener, ?_⟩
  have hlength := h.length_le
  rw [List.length_cons]
  omega

/-- The other stack alone can close its top, and the padded one has one more than before. -/
theorem pop : Padded (n + 1) stack.tail padded := by
  refine ⟨(List.tail_sublist stack).trans h.sublist, ?_⟩
  have hlength := h.length_le
  rw [List.length_tail]
  omega

theorem le_count (opener : Opener) : stack.count opener ≤ padded.count opener :=
  h.sublist.count_le opener

/-- At most the scopes that are too many count in addition. -/
theorem count_le (opener : Opener) : padded.count opener ≤ stack.count opener + n := by
  have hcount := h.sublist.le_count opener
  have hlength := h.length_le
  omega

end Opener.Padded

/-! ## Passes with more scopes -/

namespace Pass

/-- The loops of a line are counted while they are open. -/
theorem loops_line_le (p : Pass) (t : LineTags) : (p.line t).loops ≤ (p.line t).deepest := by
  have hstack : (p.line t).scopes.Sublist (p.opened t) := by
    rw [line]
    split
    · exact List.tail_sublist _
    · exact List.Sublist.refl _
  exact (hstack.count_le _).trans (Nat.le_max_right _ _)

/-- The second pass has at most `n` scopes more open than the first one, is at most `n` deeper, and
    has counted no allocation less. -/
structure Padded (n : Nat) (p q : Pass) : Prop where
  scopes : Opener.Padded n p.scopes q.scopes
  le_deepest : p.deepest ≤ q.deepest
  deepest_le : q.deepest ≤ p.deepest + n
  le_allocations : p.allocations ≤ q.allocations

theorem padded_refl (p : Pass) : Padded 0 p p :=
  ⟨⟨List.Sublist.refl _, Nat.le_refl _⟩, Nat.le_refl _, Nat.le_refl _, Nat.le_refl _⟩

namespace Padded

variable {n : Nat} {p q : Pass} (h : Padded n p q)
include h

/-- The same line keeps the two passes together. -/
theorem line (t : LineTags) : Padded n (p.line t) (q.line t) := by
  have hopened : Opener.Padded n (p.opened t) (q.opened t) := h.scopes.append _
  have hlow := hopened.le_count .loop
  have hhigh := hopened.count_le .loop
  have hdeep := h.le_deepest
  have hbound := h.deepest_le
  have halloc := h.le_allocations
  refine ⟨?_, ?_, ?_, ?_⟩
  · rw [Pass.line, Pass.line]
    split
    · exact hopened.tail
    · exact hopened
  · simp only [Pass.line]
    omega
  · simp only [Pass.line]
    omega
  · simp only [Pass.line]
    split <;> omega

/-- A line that opens a loop, read by the second pass alone, gives it one scope more. -/
theorem loopLine (hp : p.loops ≤ p.deepest) {t : LineTags} (hloop : t.opensLoop = true)
    (hfunction : t.opensFunction = false) (hcloses : t.closes = false) :
    Padded (n + 1) p (q.line t) := by
  have hopened : q.opened t = .loop :: q.scopes := by
    rw [opened, hloop, hfunction]
    rfl
  have hcount : q.scopes.count .loop ≤ p.scopes.count .loop + n := h.scopes.count_le .loop
  have hloops : p.scopes.count .loop ≤ p.deepest := hp
  have hdeep := h.le_deepest
  have hbound := h.deepest_le
  have halloc := h.le_allocations
  refine ⟨?_, ?_, ?_, ?_⟩
  · rw [Pass.line, hcloses, hopened]
    exact h.scopes.push .loop
  · exact hdeep.trans (Nat.le_max_left _ _)
  · show max q.deepest ((q.opened t).count .loop) ≤ p.deepest + (n + 1)
    rw [hopened, List.count_cons_self]
    omega
  · simp only [Pass.line]
    split <;> omega

/-- A line that does nothing but close, read by the first pass alone, leaves the second one scope
    more. -/
theorem braceLine (hp : p.loops ≤ p.deepest) {t : LineTags} (ht : t.events = [.leave]) :
    Padded (n + 1) (p.line t) q := by
  rw [← foldl_apply_events hp, ht]
  exact ⟨h.scopes.pop, h.le_deepest, h.deepest_le.trans (Nat.le_succ _), h.le_allocations⟩

end Padded

end Pass

/-! ## Edited lines -/

/-- The second list of lines is the first one after some lines have been put in and others left
    out, at any places.  What is put in starts with the loop keyword, and what is left out is a lone
    closing brace, blanks at the ends of the lines apart. -/
inductive Edited : (inserted deleted : Nat) → List Text → List Text → Prop where
  | nil : Edited 0 0 [] []
  | keep {k m : Nat} {lines edited : List Text} (line : Text) :
      Edited k m lines edited → Edited k m (line :: lines) (line :: edited)
  | insert {k m : Nat} {lines edited : List Text} {line : Text} :
      "for".toList <+: line.trim → Edited k m lines edited →
      Edited (k + 1) m lines (line :: edited)
  | delete {k m : Nat} {lines edited : List Text} {line : Text} :
      line.trim = ['\x7d'] → Edited k m lines edited →
      Edited k (m + 1) (line :: lines) edited

namespace Edited

theorem refl (lines : List Text) : Edited 0 0 lines lines := by
  induction lines with
  | nil => exact .nil
  | cons line lines ih => exact .keep line ih

/-- The same lines can stand in front. -/
theorem append_left {k m : Nat} {lines edited : List Text} (front : List Text)
    (h : Edited k m lines edited) : Edited k m (front ++ lines) (front ++ edited) := by
  induction front with
  | nil => exact h
  | cons line front ih => exact .keep line ih

end Edited

section Standard

variable (tracks : Bool)

/-- By the standard keywords, a line that starts with the loop keyword opens a loop and no
    function, and closes nothing. -/
theorem LineRules.tags_of_for {line : Text} (h : "for".toList <+: line.trim) :
    (tags ⟨Keywords.standard, tracks⟩ line).opensLoop = true ∧
    (tags ⟨Keywords.standard, tracks⟩ line).opensFunction = false ∧
    (tags ⟨Keywords.standard, tracks⟩ line).closes = false := by
  obtain ⟨rest, hrest⟩ := h
  rw [tags, ← hrest]
  exact ⟨rfl, rfl, rfl⟩

/-- By the standard keywords, a lone closing brace does nothing but close. -/
theorem LineRules.events_of_brace {line : Text} (h : line.trim = ['\x7d']) :
    (tags ⟨Keywords.standard, tracks⟩ line).events = [.leave] := by
  rw [tags, h]
  cases tracks <;> decide

/-- Edits cost a pass no more scopes than there are edits. -/
theorem Edited.padded {k m : Nat} {lines edited : List Text} (h : Edited k m lines edited)
    {n : Nat} {p q : Pass} (hpq : p.Padded n q) (hp : p.loops ≤ p.deepest) :
    ((lines.map (LineRules.tags ⟨Keywords.standard, tracks⟩)).foldl Pass.line p).Padded
      (n + (k + m))
      ((edited.map (LineRules.tags ⟨Keywords.standard, tracks⟩)).foldl Pass.line q) := by
  -- the induction follows the edits, and each of them adds to the scopes that are too many so far
  induction h generalizing n p q with
  | nil => exact hpq
  | keep line _ ih => exact ih (hpq.line _) (Pass.loops_line_le p _)
  | @insert k m lines edited line hfor _ ih =>
      obtain ⟨hloop, hfunction, hcloses⟩ := LineRules.tags_of_for tracks hfor
      have hrun := ih (hpq.loopLine hp hloop hfunction hcloses) hp
      rwa [show n + 1 + (k + m) = n + (k + 1 + m) by omega] at hrun
  | @delete k m lines edited line hbrace _ ih =>
      have hrun := ih (hpq.braceLine hp (LineRules.events_of_brace tracks hbrace))
        (Pass.loops_line_le p _)
      rwa [show n + 1 + (k + m) = n + (k + (m + 1)) by omega] at hrun

/-- By the standard keywords, the tally of some lines is that of a pass over them.  No lines at all
    make an empty text, whose one line does nothing. -/
theorem Outline.tally_intercalate {lines : List Text} (h : ∀ line ∈ lines, '\n' ∉ line) :
    (ofSource ⟨Keywords.standard, tracks⟩ (['\n'].intercalate lines)).tally
      = (Pass.ofLines (lines.map (LineRules.tags ⟨Keywords.standard, tracks⟩))).tally := by
  rw [ofSource, Reading.ofSource, Pass.tally_finish_ofEvents, LineRules.events, Text.lines]
  cases lines with
  | nil =>
      have hempty : (LineRules.tags ⟨Keywords.standard, tracks⟩ []).events = [] := by
        cases tracks <;> decide
      rw [show List.intercalate ['\n'] ([] : List Text) = [] from rfl,
        List.splitOn_eq_singleton List.not_mem_nil, List.flatMap_singleton, hempty]
      rfl
  | cons line rest =>
      rw [List.splitOn_intercalate '\n' h (List.cons_ne_nil _ _), ← List.flatMap_map,
        Pass.foldl_apply_flatMap_events]

end Standard

/-- **Edits show in one direction and within bounds.**  By the standard keywords, with calls or
    without:

    * if `k` lines that open a loop are put into a text and `m` lone closing braces are left out,
      wherever that is, the text gets no shallower and at most `k + m` deeper, and it allocates no
      less;
    * so a stray closing brace can only make a text shallower, and by one at most. -/
theorem Outline.deepest_edited (tracks : Bool) :
    (∀ (k m : Nat) (lines edited : List Text), Edited k m lines edited →
      (∀ line ∈ lines, '\n' ∉ line) → (∀ line ∈ edited, '\n' ∉ line) →
      let before := (ofSource ⟨Keywords.standard, tracks⟩ (['\n'].intercalate lines)).tally
      let after := (ofSource ⟨Keywords.standard, tracks⟩ (['\n'].intercalate edited)).tally
      before.deepest ≤ after.deepest ∧ after.deepest ≤ before.deepest + (k + m) ∧
        before.allocations ≤ after.allocations) ∧
    ∀ (front back : List Text) (brace : Text), brace.trim = ['\x7d'] →
      (∀ line ∈ front ++ brace :: back, '\n' ∉ line) →
      let stray := (ofSource ⟨Keywords.standard, tracks⟩
        (['\n'].intercalate (front ++ brace :: back))).tally
      let clean := (ofSource ⟨Keywords.standard, tracks⟩
        (['\n'].intercalate (front ++ back))).tally
      stray.deepest ≤ clean.deepest ∧ clean.deepest ≤ stray.deepest + 1 := by
  have hedits : ∀ (k m : Nat) (lines edited : List Text), Edited k m lines edited →
      (∀ line ∈ lines, '\n' ∉ line) → (∀ line ∈ edited, '\n' ∉ line) →
      let before := (ofSource ⟨Keywords.standard, tracks⟩ (['\n'].intercalate lines)).tally
      let after := (ofSource ⟨Keywords.standard, tracks⟩ (['\n'].intercalate edited)).tally
      before.deepest ≤ after.deepest ∧ after.deepest ≤ before.deepest + (k + m) ∧
        before.allocations ≤ after.allocations := by
    intro k m lines edited h hlines hedited
    have hrun := h.padded tracks (Pass.padded_refl .start) (Nat.le_refl 0)
    rw [Nat.zero_add] at hrun
    rw [tally_intercalate tracks hlines, tally_intercalate tracks hedited]
    exact ⟨hrun.le_deepest, hrun.deepest_le, hrun.le_allocations⟩
  refine ⟨hedits, ?_⟩
  intro front back brace hbrace hlines
  have hedited : ∀ line ∈ front ++ back, '\n' ∉ line := by
    intro line hline
    refine hlines line ?_
    rcases List.mem_append.mp hline with hfront | hback
    · exact List.mem_append_left _ hfront
    · exact List.mem_append_right _ (List.mem_cons_of_mem brace hback)
  have hedit : Edited 0 1 (front ++ brace :: back) (front ++ back) :=
    (Edited.delete hbrace (Edited.refl back)).append_left front
  obtain ⟨hlow, hhigh, -⟩ := hedits 0 1 _ _ hedit hlines hedited
  exact ⟨hlow, hhigh⟩

/-- Two loops one after the other become three inside each other when a loop is put between them and
    the first close is left out; and the brace of a condition closes a loop too early. -/
theorem Outline.deepest_edited_three :
    let lines := ["for (;;) \x7b".toList, " \x7d\r".toList, "for (;;) \x7b".toList, "\x7d".toList]
    let edited := ["for (;;) \x7b".toList, " for (x of new Set()) \x7b".toList,
      "for (;;) \x7b".toList, "\x7d".toList]
    let front := ["for (;;) \x7b".toList, "if (x) \x7b".toList]
    let back := ["for (;;) \x7b".toList, "\x7d".toList, "\x7d".toList]
    let depth := fun lines => (ofSource .standard (['\n'].intercalate lines)).tally.deepest
    Edited 1 1 lines edited ∧ depth lines ≤ depth edited ∧ depth edited ≤ depth lines + 2 ∧
    depth (front ++ "  \x7d".toList :: back) ≤ depth (front ++ back) ∧
    depth (front ++ back) ≤ depth (front ++ "  \x7d".toList :: back) + 1 := by
  intro lines edited front back depth
  have hedit : Edited 1 1 lines edited := by
    refine .keep _ (.delete (by decide) (.insert ?_ (Edited.refl _)))
    exact List.isPrefixOf_iff_prefix.mp (by decide)
  obtain ⟨hedits, hstray⟩ := deepest_edited false
  obtain ⟨hlow, hhigh, -⟩ := hedits 1 1 lines edited hedit (by decide) (by decide)
  obtain ⟨hless, hone⟩ := hstray front back "  \x7d".toList (by decide) (by decide)
  exact ⟨hedit, hlow, hhigh, hless, hone⟩

end OrderOfGrowth
