import Mathlib.Data.List.Induction
import OrderOfGrowth.Proofs.CallWords
import OrderOfGrowth.Proofs.Mentions
import OrderOfGrowth.Proofs.OnePass
import OrderOfGrowth.Report.Basic

/-! # Second mentions — recursion in the outline against recursion in the raw text

    Recursion is looked for twice and in two ways.  The outline has it if a function has a call of
    its own declared name among its children; the raw text has it if what stands between the first
    function keyword and the next parenthesis occurs twice.  The two take the name from different
    places, so they need not agree: a generator's star, and what stands between the end of the line
    and a parenthesis on a later one, belong to the name in the text and not to the declared one.
    Where neither comes between, recursion in the outline is a second mention in the text:

    * `Pass.exists_ownCall` goes back from the recursion flag to a line that declares a name and a
      later line that calls it: what is on the stack was put there by an earlier line;
    * `infix_of_mem_callNames` and `isName_of_declaredName?` find both names in the text;
    * `Idioms.firstFunctionName?_of_plain` says that the raw text shows the declared name. -/

namespace OrderOfGrowth

/-! ## Who put a function on the stack -/

namespace Pass

/-- A named function on the stack was there before, or the line has declared it. -/
theorem mem_opened {p : Pass} {t : LineTags} {name : Text}
    (h : .function (some name) ∈ p.opened t) :
    .function (some name) ∈ p.scopes ∨ t.functionName = some name := by
  rw [opened, List.append_assoc, List.mem_append, List.mem_append] at h
  rcases h with hfunction | hloop | hbefore
  · split at hfunction
    · exact Or.inr (Opener.function.inj (List.mem_singleton.mp hfunction)).symm
    · exact absurd hfunction List.not_mem_nil
  · split at hloop
    · cases List.mem_singleton.mp hloop
    · exact absurd hloop List.not_mem_nil
  · exact Or.inl hbefore

theorem ofLines_append_singleton (ts : List LineTags) (t : LineTags) :
    ofLines (ts ++ [t]) = (ofLines ts).line t := by
  rw [ofLines, List.foldl_append]
  rfl

/-- A named function on the stack was declared by one of the lines. -/
theorem exists_declared {ts : List LineTags} {name : Text}
    (h : .function (some name) ∈ (ofLines ts).scopes) : ∃ t ∈ ts, t.functionName = some name := by
  induction ts using List.reverseRecOn with
  | nil => exact nomatch h
  | append_singleton ts t ih =>
      have hopened : .function (some name) ∈ (ofLines ts).opened t := by
        rw [ofLines_append_singleton, line] at h
        split at h
        · exact List.mem_of_mem_tail h
        · exact h
      rcases mem_opened hopened with hbefore | hname
      · obtain ⟨u, hu, hdeclared⟩ := ih hbefore
        exact ⟨u, List.mem_append_left _ hu, hdeclared⟩
      · exact ⟨t, List.mem_append_right _ (List.mem_singleton_self t), hname⟩

/-- Behind the recursion flag there is a line that calls a name which that line or an earlier one
    has declared. -/
theorem exists_ownCall {ts : List LineTags} (h : (ofLines ts).recursive = true) :
    ∃ before t after name, ts = before ++ t :: after ∧ name ∈ t.calls ∧
      ∃ u ∈ before ++ [t], u.functionName = some name := by
  induction ts using List.reverseRecOn with
  | nil => exact nomatch h
  | append_singleton ts t ih =>
      rw [ofLines_append_singleton, line, Bool.or_eq_true] at h
      rcases h with hbefore | hcalls
      · obtain ⟨before, u, after, name, rfl, hcall, hdeclared⟩ := ih hbefore
        exact ⟨before, u, after ++ [t], name, by simp, hcall, hdeclared⟩
      · -- the innermost scope is a function of the name that the line calls
        obtain ⟨name, hname, hinner⟩ := List.any_eq_true.mp hcalls
        rw [innermostIs, beq_iff_eq] at hinner
        refine ⟨ts, t, [], name, rfl, hname, ?_⟩
        rcases mem_opened (List.mem_of_mem_head? hinner) with hstack | hown
        · obtain ⟨u, hu, hdeclared⟩ := exists_declared hstack
          exact ⟨u, List.mem_append_left _ hu, hdeclared⟩
        · exact ⟨t, List.mem_append_right _ (List.mem_singleton_self t), hown⟩

end Pass

/-! ## Calls and declarations in a line -/

/-- The names called on a line stand on it. -/
theorem infix_of_mem_callNames {declared : Option Text} {line name : Text}
    (h : name ∈ callNames declared line) : name <:+: line := by
  obtain ⟨i, -, rfl⟩ := List.mem_map.mp (mem_callNames_iff.mp h).1
  exact (Text.lastWord_infix _).trans (List.take_prefix i line).isInfix

namespace LineRules

/-- A line does not call the name that it declares. -/
theorem not_mem_calls_of_functionName {rules : LineRules} {line name : Text}
    (h : (rules.tags line).functionName = some name) : name ∉ (rules.tags line).calls := by
  intro hcall
  rw [tags, trimmedTags] at h hcall
  dsimp only at h hcall
  split at hcall
  · have hother := (List.mem_filter.mp hcall).2
    rw [h] at hother
    simp at hother
  · exact nomatch hcall

/-- The names called on a line stand on it. -/
theorem infix_of_mem_calls {rules : LineRules} {line name : Text}
    (h : name ∈ (rules.tags line).calls) : name <:+: line := by
  rw [tags, trimmedTags] at h
  dsimp only at h
  split at h
  · exact (infix_of_mem_callNames h).trans (Text.trim_infix line)
  · exact nomatch h

/-- By the standard keywords, a name is declared behind the function keyword. -/
theorem exists_of_functionName {tracks : Bool} {line name : Text}
    (h : (tags ⟨Keywords.standard, tracks⟩ line).functionName = some name) :
    ∃ rest, line.trim = "function".toList ++ rest ∧ declaredName? rest = some name := by
  obtain ⟨keyword, hkeyword, hname⟩ := Option.bind_eq_some_iff.mp h
  obtain rfl : keyword = "function".toList :=
    List.mem_singleton.mp (List.mem_of_find?_eq_some hkeyword)
  have hstarts := List.find?_some (p := fun k => List.isPrefixOf k line.trim) hkeyword
  obtain ⟨rest, hrest⟩ := List.isPrefixOf_iff_prefix.mp hstarts
  refine ⟨rest, hrest.symm, ?_⟩
  rwa [← hrest, List.drop_left] at hname

end LineRules

/-- Recursion in the outline, seen in the text: the keyword with a name declared behind it, the
    blanks that end the line, and a call of the name on a later line. -/
theorem Outline.exists_declaration_of_recursive {tracks : Bool} {source : Text}
    (h : (Outline.ofSource ⟨Keywords.standard, tracks⟩ source).tally.recursive = true) :
    ∃ front rest blanks back name,
      source = front ++ ("function".toList ++ (rest ++ (blanks ++ '\n' :: back))) ∧
      (∀ c ∈ blanks, isBlank c = true) ∧ declaredName? rest = some name ∧ name <:+: back := by
  rw [Outline.ofSource, Reading.ofSource, Pass.tally_finish_ofEvents, LineRules.events,
    ← List.flatMap_map, Pass.foldl_apply_flatMap_events] at h
  obtain ⟨before, t, after, name, hts, hcall, u, hu, hname⟩ := Pass.exists_ownCall h
  obtain ⟨lines, rest, hlines, rfl, hrest⟩ := List.map_eq_append_iff.mp hts
  obtain ⟨line, later, rfl, rfl, -⟩ := List.map_eq_cons_iff.mp hrest
  -- the line that declares the name is not the one that calls it
  have hbefore : u ∈ lines.map (LineRules.tags ⟨Keywords.standard, tracks⟩) := by
    rcases List.mem_append.mp hu with hu | hu
    · exact hu
    · obtain rfl := List.mem_singleton.mp hu
      exact absurd hcall (LineRules.not_mem_calls_of_functionName hname)
  obtain ⟨declaring, hdeclaring, rfl⟩ := List.mem_map.mp hbefore
  obtain ⟨first, second, rfl⟩ := List.append_of_mem hdeclaring
  rw [List.append_assoc, List.cons_append] at hlines
  obtain ⟨front, back, rfl, hback⟩ := Text.exists_of_splitOn_eq (by simp) hlines
  obtain ⟨rest, htrim, hdeclared⟩ := LineRules.exists_of_functionName hname
  obtain ⟨leading, blanks, hsplit, -, hblanks⟩ := Text.exists_trim declaring
  refine ⟨front ++ leading, rest, blanks, back, name, ?_, hblanks, hdeclared, ?_⟩
  · rw [htrim] at hsplit
    rw [hsplit]
    simp only [List.append_assoc]
  · have hin := LineRules.infix_of_mem_calls hcall
    have hline : line ∈ back.splitOn '\n' := by
      rw [hback]
      exact List.mem_append_right _ List.mem_cons_self
    exact (Text.infix_iff_exists_line (fun hn => Text.not_mem_of_mem_splitOn hline
      (hin.subset hn)) back).mpr ⟨line, hline, hin⟩

/-! ## The two names -/

namespace Text

/-- If the keyword stands at one place, the text behind that place is what follows it first. -/
theorem after?_function_of_once {source front rest : Text}
    (h : source = front ++ ("function".toList ++ rest))
    (honce : count "function".toList source = 1) :
    after? "function".toList source = some rest := by
  have hin : "function".toList <:+: source := ⟨front, rest, by rw [h, List.append_assoc]⟩
  obtain ⟨rest', hrest'⟩ := exists_after?_of_mem hin
  obtain ⟨front', hfront'⟩ := exists_of_after? hrest'
  have htwice : ¬ Twice "function".toList source := by
    rw [← one_lt_count_iff (by decide), honce]
    exact Nat.lt_irrefl 1
  rw [hfront'] at htwice
  rw [hrest', eq_of_not_twice (by decide) (hfront'.symm.trans h) htwice]

/-- A text that goes on behind a line feed, but is trimmed to one line, has nothing but blanks
    there. -/
theorem trim_append_newline {a b : Text} (ha : a.trim ≠ [])
    (h : '\n' ∉ (a ++ '\n' :: b).trim) : (a ++ '\n' :: b).trim = a.trim := by
  obtain ⟨front, back, heq, hfront, hback⟩ := exists_trim (a ++ '\n' :: b)
  have hblanks : ∀ c ∈ '\n' :: b, isBlank c = true := by
    rcases List.append_eq_append_iff.mp heq with ⟨m, hm, -⟩ | ⟨m, -, hrest⟩
    · -- the line feed would stand among the leading blanks, and all of the first part too
      refine absurd ?_ ha
      exact trim_append_blanks (fun c hc => hfront c (hm ▸ List.mem_append_left m hc)) []
    · rcases List.append_eq_append_iff.mp hrest with ⟨m', -, hlines⟩ | ⟨m', hm', hlines⟩
      · intro c hc
        exact hback c (hlines ▸ List.mem_append_right m' hc)
      · cases m' with
        | nil =>
            rw [show '\n' :: b = back from hlines]
            exact hback
        | cons c cs =>
            obtain ⟨rfl, -⟩ := List.cons.inj hlines
            exact absurd (hm' ▸ List.mem_append_right m List.mem_cons_self) h
  exact trim_append_blanks hblanks a

theorem upTo_append_of_mem {c : Char} {a : Text} (h : c ∈ a) (b : Text) :
    upTo c (a ++ b) = upTo c a := by
  obtain ⟨head, back, rfl, hfree⟩ := List.eq_append_cons_of_mem h
  rw [List.append_assoc, List.cons_append, upTo_append_cons hfree, upTo_append_cons hfree]

end Text

/-- If no star and no line feed is left between the keyword and the next parenthesis, the declared
    name is. -/
theorem trim_upTo_of_declaredName? {rest blanks back name : Text}
    (hblanks : ∀ c ∈ blanks, isBlank c = true) (hname : declaredName? rest = some name)
    (hstar : '*' ∉ ((rest ++ (blanks ++ '\n' :: back)).upTo '(').trim)
    (hline : '\n' ∉ ((rest ++ (blanks ++ '\n' :: back)).upTo '(').trim) :
    ((rest ++ (blanks ++ '\n' :: back)).upTo '(').trim = name := by
  have hsome := (isName_of_declaredName? hname).1
  rw [declaredName?, Option.ite_none_right_eq_some, Option.some.injEq] at hname
  obtain ⟨-, hname⟩ := hname
  have hplain : ∀ head : Text, '*' ∉ head.trim →
      Text.trim (head.trim.dropWhile (· == '*')) = head.trim := by
    intro head hhead
    have hkeep : head.trim.dropWhile (· == '*') = head.trim := by
      cases htrim : head.trim with
      | nil => rfl
      | cons c cs =>
          refine List.dropWhile_cons_of_neg fun hc => hhead ?_
          rw [htrim, beq_iff_eq.mp hc]
          exact List.mem_cons_self
    rw [hkeep, Text.trim_trim]
  by_cases hparen : '(' ∈ rest
  · rw [Text.upTo_append_of_mem hparen] at hstar hline ⊢
    rw [← hname, hplain _ hstar]
  · -- the parenthesis is on a later line, and only blanks come before it
    have hself : rest.upTo '(' = rest := Text.upTo_of_not_mem hparen
    have hhead : (rest ++ (blanks ++ '\n' :: back)).upTo '('
        = rest ++ blanks ++ '\n' :: back.upTo '(' := by
      have hfree : '(' ∉ rest ++ blanks ++ ['\n'] := by
        intro hmem
        rcases List.mem_append.mp hmem with hmem | hmem
        · rcases List.mem_append.mp hmem with hmem | hmem
          · exact hparen hmem
          · exact absurd (hblanks '(' hmem) (by decide)
        · exact absurd (List.mem_singleton.mp hmem) (by decide)
      have happend := Text.upTo_append_of_not_mem hfree back
      simpa only [List.append_assoc, List.cons_append, List.nil_append] using happend
    have hrest : rest.trim ≠ [] := by
      intro hnil
      rw [hself, hnil] at hname
      rw [← hname] at hsome
      cases hsome
    have hblank := Text.trim_append_blanks hblanks rest
    rw [hhead] at hstar hline ⊢
    rw [Text.trim_append_newline (by rwa [hblank]) hline, hblank] at hstar ⊢
    rw [← hname, hself, hplain _ hstar]

/-- In a text with one function keyword, the name that the raw text shows is the declared one, if
    it is plain. -/
theorem Idioms.firstFunctionName?_of_plain {source front rest blanks back name : Text}
    (hsource : source = front ++ ("function".toList ++ (rest ++ (blanks ++ '\n' :: back))))
    (hblanks : ∀ c ∈ blanks, isBlank c = true) (hname : declaredName? rest = some name)
    (honce : Text.count "function".toList source = 1)
    (hplain : ∀ name, Idioms.firstFunctionName? source = some name → '*' ∉ name ∧ '\n' ∉ name) :
    Idioms.firstFunctionName? source = some name := by
  have hfirst : Idioms.firstFunctionName? source
      = if ((rest ++ (blanks ++ '\n' :: back)).upTo '(').trim.isEmpty then none
        else some ((rest ++ (blanks ++ '\n' :: back)).upTo '(').trim := by
    rw [Idioms.firstFunctionName?, Text.after?_function_of_once hsource honce]
    rfl
  -- an empty text between keyword and parenthesis is plain too, but is no name
  have hhead : '*' ∉ ((rest ++ (blanks ++ '\n' :: back)).upTo '(').trim ∧
      '\n' ∉ ((rest ++ (blanks ++ '\n' :: back)).upTo '(').trim := by
    cases hnil : ((rest ++ (blanks ++ '\n' :: back)).upTo '(').trim with
    | nil => exact ⟨List.not_mem_nil, List.not_mem_nil⟩
    | cons c cs =>
        rw [hnil] at hfirst
        exact hplain _ hfirst
  rw [hfirst, trim_upTo_of_declaredName? hblanks hname hhead.1 hhead.2]
  refine if_neg fun hempty => ?_
  have hisName := (isName_of_declaredName? hname).1
  rw [List.isEmpty_iff.mp hempty] at hisName
  cases hisName

/-! ## Agreement -/

/-- A name that stands twice in the text, without overlap, shows recursion. -/
theorem Idioms.recursive_of_twice {source name : Text}
    (hname : Idioms.firstFunctionName? source = some name) (hne : name ≠ [])
    (h : Text.Twice name source) : (Idioms.ofSource source).recursive = true := by
  show recursionIn source = true
  rw [recursionIn, hname]
  exact decide_eq_true ((Text.one_lt_count_iff hne source).mpr h)

theorem Text.suffix_intercalate (sep last : Text) (ts : List Text) :
    last <:+ sep.intercalate (ts ++ [last]) := by
  induction ts with
  | nil => simp only [List.nil_append, List.intercalate_singleton, List.suffix_refl]
  | cons t ts ih =>
      rw [List.cons_append, List.intercalate_cons_of_ne_nil (by simp)]
      exact ih.trans (List.suffix_append _ _)

/-- The note on recursion ends the description of every report on a text that shows it. -/
theorem Report.note_of_recursive {source : Text} (h : (Idioms.ofSource source).recursive = true)
    (s : Settings) :
    "Note: Recursive calls add to the space complexity through the call stack.".toList
      <:+ (Report.ofSource s source).description := by
  rw [Report.ofSource, Report.ofStudy, Study.ofSource]
  dsimp only
  rw [describe, Idioms.notes, if_pos h, ← List.append_assoc]
  exact Text.suffix_intercalate _ _ _

/-- The two searches for recursion do not agree on a generator, whose star is part of the one name
    and not of the other, nor where a comment stands between a name and its parameters on the next
    line: the outline is recursive, and the raw text does not show it. -/
theorem Idioms.not_recursive_of_outline :
    let generator := "function* walk(node) \x7b\n  walk(node);\n\x7d".toList
    let late := "function walk\n/* tree */ (node) \x7b\n  walk(node);\n\x7d".toList
    ∀ source ∈ [generator, late],
      Text.count "function".toList source = 1 ∧
      (Outline.ofSource ⟨Keywords.standard, true⟩ source).estimate.tally.recursive = true ∧
      (Idioms.ofSource source).recursive = false := by
  intro generator late
  have hgenerator : (Outline.ofSource ⟨Keywords.standard, true⟩ generator).tally.recursive
      = true := by
    rw [Outline.recursive_tally]
    decide +kernel
  have hlate : (Outline.ofSource ⟨Keywords.standard, true⟩ late).tally.recursive = true := by
    rw [Outline.recursive_tally]
    decide +kernel
  refine List.forall_mem_cons.mpr ⟨⟨by decide, hgenerator, by decide⟩, ?_⟩
  exact List.forall_mem_singleton.mpr ⟨by decide, hlate, by decide⟩

/-- **Recursion in the outline is a second mention in the text.**  In every source text with just
    one function keyword, if neither a star nor a line feed is left in what stands between the
    keyword and the next parenthesis, recursion in the outline that is read with the standard
    keywords and with calls also shows in the raw text; so every report on the text ends with the
    note on recursion. -/
theorem Idioms.recursive_of_outline (source : Text)
    (honce : Text.count "function".toList source = 1)
    (hplain : ∀ name, Idioms.firstFunctionName? source = some name → '*' ∉ name ∧ '\n' ∉ name)
    (hrec : (Outline.ofSource ⟨Keywords.standard, true⟩ source).estimate.tally.recursive = true) :
    (Idioms.ofSource source).recursive = true ∧
    ∀ s : Settings,
      "Note: Recursive calls add to the space complexity through the call stack.".toList
        <:+ (Report.ofSource s source).description := by
  have hrecursive : (Idioms.ofSource source).recursive = true := by
    obtain ⟨front, rest, blanks, back, name, hsource, hblanks, hname, hcall⟩ :=
      Outline.exists_declaration_of_recursive hrec
    obtain ⟨hisName, hdeclared⟩ := isName_of_declaredName? hname
    have hne : name ≠ [] := by
      rintro rfl
      exact nomatch hisName
    refine Idioms.recursive_of_twice
      (Idioms.firstFunctionName?_of_plain hsource hblanks hname honce hplain) hne ?_
    -- the declaration is the first mention, and the call on a later line the second
    have hlater : name <:+: blanks ++ '\n' :: back :=
      hcall.trans ((List.suffix_cons '\n' back).isInfix.trans (List.suffix_append _ _).isInfix)
    rw [hsource]
    exact ((Text.Twice.of_parts hdeclared hlater).append_left _).append_left _
  exact ⟨hrecursive, Report.note_of_recursive hrecursive⟩

/-- A function whose parameters open on the line below its name. -/
theorem Idioms.recursive_of_outline_newline :
    let source := "function walk\n(node) \x7b\n  walk(node);\n\x7d".toList
    Text.count "function".toList source = 1 ∧
    Idioms.firstFunctionName? source = some "walk".toList ∧
    (Outline.ofSource ⟨Keywords.standard, true⟩ source).estimate.tally.recursive = true ∧
    (Idioms.ofSource source).recursive = true := by
  intro source
  have honce : Text.count "function".toList source = 1 := by decide
  have hname : Idioms.firstFunctionName? source = some "walk".toList := by decide
  have hrec : (Outline.ofSource ⟨Keywords.standard, true⟩ source).tally.recursive = true := by
    rw [Outline.recursive_tally]
    decide +kernel
  have hplain : ∀ name, Idioms.firstFunctionName? source = some name →
      '*' ∉ name ∧ '\n' ∉ name := by
    intro name h
    rw [hname] at h
    rw [← Option.some.inj h]
    decide
  exact ⟨honce, hname, hrec, (recursive_of_outline source honce hplain hrec).1⟩

end OrderOfGrowth
