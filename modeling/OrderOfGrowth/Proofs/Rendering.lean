import OrderOfGrowth.Proofs.Composition
import OrderOfGrowth.Proofs.Names
import OrderOfGrowth.Proofs.Trace

/-! # Rendering — which outlines source texts have under the standard rules

    An outline is the outline of some text just when every node below its program is standard
    (`Outline.IsStandard`).  The one rule that is easy to miss: a line that declares a function
    whose name holds the word `new` allocates, so such a function shows an allocation first.

    * One line keeps the nodes of a draft standard, those of its open scopes included
      (`Draft.AllStandard.line`), and so does a whole text.
    * `Outline.lines` writes an outline as lines.  The lines of standard outlines have the outlines'
      traces for marks (`marksOf_linesOf`), these are in balance (`settle_traces`), and the outline
      with that trace is the one that was written. -/

namespace OrderOfGrowth

/-! ## Standard outlines -/

namespace Outline

theorem mem_nodesOf {u : Outline} {ts : List Outline} :
    u ∈ nodesOf ts ↔ ∃ t ∈ ts, u ∈ t.nodes := by
  induction ts with
  | nil => simp
  | cons t ts ih => rw [nodesOf, List.mem_append, ih]; simp

/-- What the standard rules let a node below the program be: allocations are counted one at a time,
    there are no calls, and a function's name is a name, with an allocation first in the function if
    it holds the word `new`. -/
def IsStandard : Outline → Prop
  | program _ => False
  | loop _ => True
  | function none _ => True
  | function (some name) body =>
    isName name = true ∧ ("new".toList <:+: name → ∃ count rest, body = allocation count :: rest)
  | allocation count => count = 1
  | call _ => False

/-- All nodes of the outline are standard. -/
def AllStandard (t : Outline) : Prop := ∀ u ∈ t.nodes, u.IsStandard

theorem allStandard_iff (t : Outline) :
    t.AllStandard ↔ t.IsStandard ∧ ∀ c ∈ t.children, c.AllStandard := by
  rw [AllStandard, nodes_eq, List.forall_mem_cons]
  refine and_congr_right fun _ => ?_
  simp only [mem_nodesOf, AllStandard]
  grind

theorem allStandard_allocation : (allocation 1).AllStandard := by
  simp [AllStandard, IsStandard]

end Outline

/-- What a line does is standard if it records no calls and declares proper names only, with an
    allocation for a name that holds the word `new`. -/
structure LineTags.IsStandard (t : LineTags) : Prop where
  noCalls : t.calls = []
  isName : ∀ name, t.functionName = some name → isName name = true
  allocates : ∀ name, t.functionName = some name → "new".toList <:+: name → t.allocates = true

/-- Under the standard rules, every line is standard. -/
theorem LineRules.isStandard_tags (line : Text) : (standard.tags line).IsStandard := by
  have hdeclared : ∀ name, (standard.tags line).functionName = some name →
      isName name = true ∧ name <:+: line.trim := by
    intro name h
    obtain ⟨keyword, -, hname⟩ := Option.bind_eq_some_iff.mp h
    obtain ⟨hok, hin⟩ := isName_of_declaredName? hname
    exact ⟨hok, hin.trans (List.drop_suffix _ _).isInfix⟩
  refine ⟨rfl, fun name h => (hdeclared name h).1, fun name h hnew => ?_⟩
  refine List.any_eq_true.mpr ⟨"new".toList, by decide, ?_⟩
  exact (Text.has_eq_true_iff _ _).mpr (hnew.trans (hdeclared name h).2)

/-! ## What a text's outline is -/

/-- The function that a standard line opens, with the line's own allocation, is standard. -/
theorem LineTags.IsStandard.function {t : LineTags} (ht : t.IsStandard) :
    (Outline.function t.functionName
      (if t.allocates then [.allocation 1] else [])).AllStandard := by
  rw [Outline.allStandard_iff]
  constructor
  · cases hname : t.functionName with
    | none => exact trivial
    | some name =>
        refine ⟨ht.isName name hname, fun hnew => ⟨1, [], ?_⟩⟩
        rw [if_pos (ht.allocates name hname hnew)]
  · intro c hc
    cases ha : t.allocates <;> simp only [Outline.children, ha] at hc
    · exact absurd hc List.not_mem_nil
    · obtain rfl := List.mem_singleton.mp hc
      exact Outline.allStandard_allocation

theorem Opener.children_outline (opener : Opener) (body : List Outline) :
    (opener.outline body).children = body := by
  cases opener <;> rfl

/-- More children at the end do no harm: what has to be first is first already. -/
theorem Opener.isStandard_outline_append {opener : Opener} {body : List Outline}
    (h : (opener.outline body).IsStandard) (more : List Outline) :
    (opener.outline (body ++ more)).IsStandard := by
  match opener, h with
  | .loop, _ => exact trivial
  | .function none, _ => exact trivial
  | .function (some name), ⟨hname, hfirst⟩ =>
      refine ⟨hname, fun hnew => ?_⟩
      obtain ⟨count, rest, rfl⟩ := hfirst hnew
      exact ⟨count, rest ++ more, rfl⟩

/-- A scope with one more child is standard if the scope and the child are. -/
theorem Scope.allStandard_push {s : Scope} {t : Outline} (hs : s.close.AllStandard)
    (ht : t.AllStandard) : (s.push t).close.AllStandard := by
  rw [Outline.allStandard_iff, close_eq_outline, Opener.children_outline] at hs ⊢
  simp only [push, List.reverse_cons, List.forall_mem_append, List.forall_mem_singleton]
  exact ⟨Opener.isStandard_outline_append hs.1 [t], hs.2, ht⟩

namespace Draft

/-- Everything that a draft holds is standard, its open scopes too if they closed now. -/
structure AllStandard (d : Draft) : Prop where
  finished : ∀ t ∈ d.finished, t.AllStandard
  scopes : ∀ s ∈ d.scopes, s.close.AllStandard

theorem allStandard_empty : empty.AllStandard := ⟨nofun, nofun⟩

variable {d : Draft} (hd : d.AllStandard)
include hd

theorem AllStandard.push {t : Outline} (ht : t.AllStandard) : (d.push t).AllStandard := by
  obtain ⟨finished, scopes, ignored⟩ := d
  cases scopes with
  | nil => exact ⟨List.forall_mem_cons.mpr ⟨ht, hd.finished⟩, hd.scopes⟩
  | cons s outer =>
      obtain ⟨hs, houter⟩ := List.forall_mem_cons.mp hd.scopes
      exact ⟨hd.finished, List.forall_mem_cons.mpr ⟨Scope.allStandard_push hs ht, houter⟩⟩

theorem AllStandard.enter {s : Scope} (hs : s.close.AllStandard) :
    AllStandard { d with scopes := s :: d.scopes } :=
  ⟨hd.finished, List.forall_mem_cons.mpr ⟨hs, hd.scopes⟩⟩

theorem AllStandard.close : d.close.AllStandard := by
  obtain ⟨finished, scopes, ignored⟩ := d
  cases scopes with
  | nil => exact ⟨hd.finished, hd.scopes⟩
  | cons s outer =>
      obtain ⟨hs, houter⟩ := List.forall_mem_cons.mp hd.scopes
      have hrest : AllStandard ⟨finished, outer, ignored⟩ := ⟨hd.finished, houter⟩
      exact hrest.push hs

/-- A function and the allocation behind it are taken together, since a function that needs an
    allocation has none yet when it opens. -/
theorem AllStandard.function {t : LineTags} (ht : t.IsStandard) :
    (((if t.opensFunction then [Event.enter (.function t.functionName)] else []) ++
      (if t.allocates then [Event.allocation] else [])).foldl apply d).AllStandard := by
  have hscope := ht.function
  cases hf : t.opensFunction with
  | false =>
      cases ha : t.allocates with
      | false => exact hd
      | true => exact hd.push Outline.allStandard_allocation
  | true =>
      cases ha : t.allocates with
      | false =>
          rw [ha] at hscope
          exact hd.enter (s := ⟨.function t.functionName, []⟩) hscope
      | true =>
          rw [ha] at hscope
          exact hd.enter (s := ⟨.function t.functionName, [.allocation 1]⟩) hscope

/-- A standard line keeps a draft standard. -/
theorem AllStandard.line {t : LineTags} (ht : t.IsStandard) :
    (t.events.foldl apply d).AllStandard := by
  have hloop : ((if t.opensLoop then [Event.enter .loop] else []).foldl apply d).AllStandard := by
    cases t.opensLoop with
    | false => exact hd
    | true =>
        have hscope : (Outline.loop []).AllStandard := by
          simp [Outline.AllStandard, Outline.IsStandard]
        exact hd.enter (s := ⟨.loop, []⟩) hscope
  have hclose : ∀ d : Draft, d.AllStandard →
      ((if t.closes then [Event.leave] else []).foldl apply d).AllStandard := by
    intro d hd
    cases t.closes with
    | false => exact hd
    | true => exact hd.close
  rw [LineTags.events, ht.noCalls, List.map_nil, List.append_nil, List.foldl_append,
    List.append_assoc, List.foldl_append]
  exact hclose _ (hloop.function ht)

omit hd

/-- Under the standard rules, a text leaves a standard draft. -/
theorem allStandard_ofEvents (source : Text) :
    (ofEvents (LineRules.standard.events source)).AllStandard := by
  have hlines : ∀ (lines : List Text) (d : Draft), d.AllStandard →
      ((lines.flatMap fun line => (LineRules.standard.tags line).events).foldl
        apply d).AllStandard := by
    intro lines
    induction lines with
    | nil => exact fun d hd => hd
    | cons line lines ih =>
        intro d hd
        rw [List.flatMap_cons, List.foldl_append]
        exact ih _ (hd.line (LineRules.isStandard_tags line))
  exact hlines source.lines empty allStandard_empty

/-- Closing the open scopes of a standard draft gives a program of standard outlines. -/
theorem AllStandard.finish {d : Draft} (hd : d.AllStandard) :
    ∀ t ∈ d.finish.children, t.AllStandard := by
  have hinner : ∀ (scopes : List Scope) (inner : Option Outline),
      (∀ s ∈ scopes, s.close.AllStandard) → (∀ t ∈ inner, t.AllStandard) →
      ∀ t ∈ scopes.foldl (fun inner s => some (inner.elim s s.push).close) inner,
        t.AllStandard := by
    intro scopes
    induction scopes with
    | nil => exact fun inner _ hin => hin
    | cons s outer ih =>
        intro inner hscopes hin
        obtain ⟨hs, houter⟩ := List.forall_mem_cons.mp hscopes
        refine ih _ houter fun t ht => ?_
        obtain rfl := Option.some.inj ht
        cases inner with
        | none => exact hs
        | some u => exact Scope.allStandard_push hs (hin u rfl)
  intro t ht
  rcases List.mem_append.mp (List.mem_reverse.mp ht) with ht | ht
  · exact hinner d.scopes none hd.scopes nofun t (Option.mem_toList.mp ht)
  · exact hd.finished t ht

end Draft

/-! ## Outlines as texts -/

namespace Outline

/-- The line that opens a function. -/
def functionLine : Option Text → Text
  | none => "function".toList
  | some name => "function ".toList ++ name

/-- Does the line that opens the function allocate? -/
def nameAllocates : Option Text → Bool
  | none => false
  | some name => Text.has "new".toList name

mutual

/-- Lines with the outline's effects.  The first line of a function's body is left out if the line
    that opens the function allocates already. -/
def lines : Outline → List Text
  | program body => linesOf body
  | loop body => "for".toList :: (linesOf body ++ [['\x7d']])
  | function name body =>
    functionLine name ::
      ((if nameAllocates name then (linesOf body).tail else linesOf body) ++ [['\x7d']])
  | allocation _ => ["new".toList]
  | call _ => []

/-- Lines with the effects of a row of outlines. -/
def linesOf : List Outline → List Text
  | [] => []
  | t :: ts => lines t ++ linesOf ts

end

/-- A source text for the outline. -/
def render (t : Outline) : Text := t.lines.flatMap (· ++ ['\n'])

example : (function (some "newMap".toList) [allocation 1, loop [allocation 1]]).render
    = "function newMap\nfor\nnew\n\x7d\n\x7d\n".toList := by decide

/-- What a standard function's name and first child have to do with its opening line. -/
theorem IsStandard.of_function {name : Option Text} {body : List Outline}
    (h : (function name body).IsStandard) :
    (∀ n ∈ name, isName n = true) ∧
    (nameAllocates name = true → ∃ count rest, body = allocation count :: rest) := by
  match name, h with
  | none, _ => exact ⟨nofun, nofun⟩
  | some n, ⟨hname, hfirst⟩ =>
      refine ⟨fun m hm => ?_, fun hnew => hfirst ((Text.has_eq_true_iff _ _).mp hnew)⟩
      obtain rfl := Option.some.inj hm
      exact hname

end Outline

/-- A name has no word in it with a character that stands in no name. -/
theorem has_eq_false_of_isName {needle n : Text} (h : isName n = true) {c : Char}
    (hc : c ∈ needle) (hchar : isNameChar c = false) : Text.has needle n = false := by
  rw [Bool.eq_false_iff, Ne, Text.has_eq_true_iff]
  exact fun hin => not_mem_of_isName h hchar (hin.subset hc)

theorem Outline.isSolid_functionLine {name : Option Text} (h : ∀ n ∈ name, isName n = true) :
    (functionLine name).isSolid = true := by
  cases name with
  | none => decide
  | some n =>
      have hn : isName n = true := h n rfl
      exact Text.isSolid_append (by decide) (by decide) (isSolid_of_isName hn)

/-- The marks of the line that opens a function. -/
theorem LineRules.marks_functionLine {name : Option Text} (h : ∀ n ∈ name, isName n = true) :
    (standard.tags (Outline.functionLine name)).marks
      = .enter (.function name)
        :: (if Outline.nameAllocates name then [.allocation 1] else []) := by
  have hself := Text.trim_of_isSolid (Outline.isSolid_functionLine h)
  cases name with
  | none => decide
  | some n =>
      have hn : isName n = true := h n rfl
      have hfrom : Text.has "Array.from".toList n = false :=
        has_eq_false_of_isName hn (c := '.') (by decide) (by decide +kernel)
      have hparen : Text.has "Array(".toList n = false :=
        has_eq_false_of_isName hn (c := '(') (by decide) (by decide +kernel)
      -- none of the markers can start within the keyword and reach into the name
      have hallocates : standard.keywords.allocations.any
          (Text.has · (Outline.functionLine (some n))) = Text.has "new".toList n := by
        show (Text.has "Array.from".toList n || (Text.has "Array(".toList n ||
          (Text.has "new".toList n || false))) = _
        rw [hfrom, hparen, Bool.false_or, Bool.false_or, Bool.or_false]
      have hloop : standard.keywords.loops.any
          (·.isPrefixOf (Outline.functionLine (some n))) = false := rfl
      have hkeyword : standard.functionKeyword? (Outline.functionLine (some n))
          = some "function".toList := rfl
      have hrest : (Outline.functionLine (some n)).drop "function".toList.length = ' ' :: n := rfl
      have hclose : (Outline.functionLine (some n) == ['\x7d']) = false := rfl
      have htags : standard.tags (Outline.functionLine (some n))
          = ⟨false, true, some n, Text.has "new".toList n, false, []⟩ := by
        rw [tags, hself, trimmedTags, hloop, hallocates, hclose]
        simp only [hkeyword, Option.bind_some, hrest, declaredName?_blank_cons hn]
        rfl
      rw [htags, Outline.nameAllocates]
      cases Text.has "new".toList n with
      | false => rfl
      | true => rfl

namespace Outline

/-- Standard outlines are written in solid lines. -/
theorem isSolid_of_mem_linesOf {ts : List Outline} (h : ∀ t ∈ ts, t.AllStandard) {line : Text}
    (hline : line ∈ linesOf ts) : line.isSolid = true := by
  induction ts using rowInduction with
  | nil => exact nomatch hline
  | cons t ts hbody hrow =>
      obtain ⟨ht, hts⟩ := List.forall_mem_cons.mp h
      obtain ⟨hstandard, hchildren⟩ := (allStandard_iff t).mp ht
      rw [linesOf, List.mem_append] at hline
      rcases hline with hline | hline
      · match t, hstandard, hbody hchildren with
        | loop body, _, hbody =>
            rw [lines, List.mem_cons, List.mem_append, List.mem_singleton] at hline
            rcases hline with rfl | hline | rfl
            · decide
            · exact hbody hline
            · decide
        | function name body, hstandard, hbody =>
            have hkept : ∀ l ∈ (if nameAllocates name then (linesOf body).tail else linesOf body),
                l ∈ linesOf body := by
              intro l hl
              split at hl
              · exact List.mem_of_mem_tail hl
              · exact hl
            rw [lines, List.mem_cons, List.mem_append, List.mem_singleton] at hline
            rcases hline with rfl | hline | rfl
            · exact isSolid_functionLine hstandard.of_function.1
            · exact hbody (hkept line hline)
            · decide
        | allocation count, _, _ =>
            rw [lines, List.mem_singleton] at hline
            rw [hline]
            decide
      · exact hrow hts hline

/-- The marks of some lines under the standard rules. -/
def marksOf (lines : List Text) : List Mark :=
  lines.flatMap fun line => (LineRules.standard.tags line).marks

theorem marksOf_cons (line : Text) (lines : List Text) :
    marksOf (line :: lines) = (LineRules.standard.tags line).marks ++ marksOf lines := rfl

theorem marksOf_append (lines more : List Text) :
    marksOf (lines ++ more) = marksOf lines ++ marksOf more := List.flatMap_append

theorem marksOf_brace : marksOf [['\x7d']] = [.leave] := by decide

theorem marksOf_allocation (count : Nat) : marksOf (allocation count).lines = [.allocation 1] := by
  rw [lines]
  decide

/-- The lines of a standard function have its trace for marks, if those of its body have. -/
theorem marksOf_lines_function {name : Option Text} {body : List Outline}
    (h : (function name body).IsStandard) (hbody : marksOf (linesOf body) = traces body)
    (hone : ∀ count, allocation count ∈ body → count = 1) :
    marksOf (function name body).lines = (function name body).trace := by
  obtain ⟨hname, hfirst⟩ := h.of_function
  have hline := LineRules.marks_functionLine hname
  rw [lines, marksOf_cons, marksOf_append, marksOf_brace, hline, trace]
  by_cases ha : nameAllocates name = true
  · -- the opening line has the first child's mark already
    obtain ⟨count, rest, rfl⟩ := hfirst ha
    obtain rfl := hone count List.mem_cons_self
    rw [linesOf, marksOf_append, marksOf_allocation, traces, trace] at hbody
    have hrest := List.append_cancel_left hbody
    rw [if_pos ha, if_pos ha, linesOf, lines, List.singleton_append, List.tail_cons, hrest, traces,
      trace]
    rfl
  · rw [if_neg ha, if_neg ha, hbody]
    rfl

/-- The lines of standard outlines have the outlines' traces for marks. -/
theorem marksOf_linesOf {ts : List Outline} (h : ∀ t ∈ ts, t.AllStandard) :
    marksOf (linesOf ts) = traces ts := by
  induction ts using rowInduction with
  | nil => rfl
  | cons t ts hbody hrow =>
      obtain ⟨ht, hts⟩ := List.forall_mem_cons.mp h
      obtain ⟨hstandard, hchildren⟩ := (allStandard_iff t).mp ht
      rw [linesOf, marksOf_append, traces, hrow hts]
      refine congrArg (· ++ traces ts) ?_
      match t, hstandard, hbody hchildren with
      | loop body, _, hbody =>
          have hfor : (LineRules.standard.tags "for".toList).marks = [.enter .loop] := by decide
          rw [children] at hbody
          rw [lines, marksOf_cons, marksOf_append, hfor, hbody, marksOf_brace, trace]
          rfl
      | function name body, hstandard, hbody =>
          refine marksOf_lines_function hstandard hbody fun count hcount => ?_
          exact ((allStandard_iff _).mp (hchildren _ hcount)).1
      | allocation count, hstandard, _ =>
          obtain rfl : count = 1 := hstandard
          rw [marksOf_allocation, trace]

end Outline

/-- The marks of whole outlines are in balance. -/
theorem Mark.settle_traces (ts : List Outline) (depth : Nat) (ms : List Mark) :
    settle depth (Outline.traces ts ++ ms) = Outline.traces ts ++ settle depth ms := by
  induction ts using Outline.rowInduction generalizing depth ms with
  | nil => rfl
  | cons t ts hbody hrow =>
      cases t <;> simp only [Outline.children] at hbody <;>
        simp only [Outline.traces, Outline.trace, List.cons_append, List.append_assoc,
          List.nil_append, settle, hbody, hrow]

/-- Lines that are each ended by a line feed, and an empty last one. -/
theorem Text.splitOn_flatMap_newline {lines : List Text} (h : ∀ line ∈ lines, '\n' ∉ line) :
    (lines.flatMap (· ++ ['\n'])).splitOn '\n' = lines ++ [[]] := by
  induction lines with
  | nil => rfl
  | cons line lines ih =>
      obtain ⟨hline, hlines⟩ := List.forall_mem_cons.mp h
      rw [List.flatMap_cons, List.append_assoc, List.singleton_append,
        List.splitOn_append_cons_self_of_not_mem hline, ih hlines]
      rfl

/-- A program of standard outlines is read back from its text. -/
theorem Outline.ofSource_render {body : List Outline} (h : ∀ t ∈ body, t.AllStandard) :
    Outline.ofSource .standard (program body).render = program body := by
  have hlast : marksOf [[]] = [] := by decide
  have hlines : (program body).render.splitOn '\n' = linesOf body ++ [[]] :=
    Text.splitOn_flatMap_newline fun line hline =>
      Text.not_mem_of_isSolid (isSolid_of_mem_linesOf h hline)
  have hmarks : ((program body).render.splitOn '\n').flatMap
      (fun line => (LineRules.standard.tags line).marks) = traces body := by
    rw [hlines]
    show marksOf _ = _
    rw [marksOf_append, hlast, List.append_nil, marksOf_linesOf h]
  have hsettle := Mark.settle_traces body 0 []
  rw [List.append_nil, Mark.settle, List.replicate_zero, List.append_nil] at hsettle
  refine trace_injective ?_
  rw [trace_ofSource, hmarks, hsettle, trace]

/-- **The outlines that texts have.**  Under the standard rules, an outline is the outline of some
    source text just when its root is a program and no other node is, it has no calls, all its
    allocations are counted one at a time, every function without a proper name has none at all, and
    every function whose name holds the word `new` has an allocation for its first child. -/
theorem Outline.exists_source_iff (t : Outline) :
    (∃ source, Outline.ofSource .standard source = t) ↔
      t.kind = .program ∧
      (∀ u ∈ nodesOf t.children, u.kind ≠ .program) ∧
      (∀ u ∈ t.nodes, u.kind ≠ .call) ∧
      (∀ count, allocation count ∈ t.nodes → count = 1) ∧
      (∀ name body, function (some name) body ∈ t.nodes → isName name = true) ∧
      ∀ name body, function (some name) body ∈ t.nodes → "new".toList <:+: name →
        ∃ count rest, body = allocation count :: rest := by
  constructor
  · rintro ⟨source, rfl⟩
    have hbelow : ∀ u ∈ nodesOf (ofSource .standard source).children, u.IsStandard := by
      intro u hu
      obtain ⟨c, hc, hu⟩ := mem_nodesOf.mp hu
      exact (Draft.allStandard_ofEvents source).finish c hc u hu
    -- the root is a program, so any other node lies below it
    have hnode : ∀ u ∈ (ofSource .standard source).nodes, u.kind ≠ .program → u.IsStandard := by
      intro u hu hkind
      rw [nodes_eq, List.mem_cons] at hu
      rcases hu with rfl | hu
      · exact absurd rfl hkind
      · exact hbelow u hu
    refine ⟨rfl, ?_, ?_, ?_, ?_, ?_⟩
    · intro u hu hkind
      match u, hkind with
      | program row, _ => exact hbelow _ hu
    · intro u hu hkind
      match u, hkind with
      | call name, _ => exact hnode _ hu nofun
    · exact fun count hu => hnode _ hu nofun
    · exact fun name body hu => (hnode _ hu nofun).1
    · exact fun name body hu => (hnode _ hu nofun).2
  · rintro ⟨hroot, hprogram, hcall, hallocation, hname, hfirst⟩
    match t, hroot with
    | program body, _ =>
        refine ⟨(program body).render, ofSource_render fun c hc u hu => ?_⟩
        have hbelow : u ∈ nodesOf body := mem_nodesOf.mpr ⟨c, hc, hu⟩
        have hu : u ∈ (program body).nodes := List.mem_cons_of_mem _ hbelow
        match u with
        | program row => exact hprogram _ hbelow rfl
        | loop row => exact trivial
        | function none row => exact trivial
        | function (some name) row => exact ⟨hname name row hu, hfirst name row hu⟩
        | allocation count => exact hallocation count hu
        | call name => exact hcall _ hu rfl

end OrderOfGrowth
