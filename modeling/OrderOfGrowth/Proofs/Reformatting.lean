import Mathlib.Data.List.TakeWhile
import OrderOfGrowth.Proofs.Lines
import OrderOfGrowth.Report.Basic

/-! # Reformatting — what indentation and blank lines cannot change

    Two texts with the same cores differ only in indentation, in blanks at the ends of lines and in
    blank lines.  The outline reads cores, as long as a blank line carries no tag, and that is what
    the check of the settings is for (`trimmedTags_nil`).  The idioms read the raw text:

    * a word such as `new Array` is solid, so it lies within one core;
    * a pair such as `=` and `[` may stand on different lines, with any blanks in between.  It is
      there just when the two are neighbours once ALL blanks are gone (`hasPair_iff`), and then the
      line feeds are gone too. -/

namespace OrderOfGrowth

/-! ## Tags -/

/-- Accepted settings have no empty keyword. -/
theorem Settings.ne_nil_of_mem_keywords {s : Settings} (h : s.fault? = none) {k : Text}
    (hk : k ∈ s.keywords.all) : k ≠ [] := by
  rintro rfl
  have hany : s.keywords.all.any List.isEmpty = true := List.any_eq_true.mpr ⟨[], hk, rfl⟩
  rw [fault?, if_pos hany] at h
  split at h
  · exact nomatch h
  · split at h
    · exact nomatch h
    · exact nomatch h

/-- Without empty keywords, a blank line does nothing. -/
theorem LineRules.trimmedTags_nil {r : LineRules} (h : ∀ k ∈ r.keywords.all, k ≠ []) :
    (r.trimmedTags []).events = [] := by
  -- a word that is not empty neither starts an empty line nor stands in it
  have hword : ∀ k ∈ r.keywords.all, k.isPrefixOf [] = false ∧ Text.has k [] = false := by
    intro k hk
    cases k with
    | nil => exact absurd rfl (h [] hk)
    | cons c cs => exact ⟨rfl, rfl⟩
  have hloops : r.keywords.loops.any (·.isPrefixOf []) = false := by
    refine List.any_eq_false.mpr fun k hk => ?_
    rw [(hword k (by simp [Keywords.all, hk])).1]
    exact Bool.false_ne_true
  have hfunctions : r.functionKeyword? [] = none := by
    refine List.find?_eq_none.mpr fun k hk => ?_
    rw [(hword k (by simp [Keywords.all, hk])).1]
    exact Bool.false_ne_true
  have hallocations : r.keywords.allocations.any (Text.has · []) = false := by
    refine List.any_eq_false.mpr fun k hk => ?_
    rw [(hword k (by simp [Keywords.all, hk])).2]
    exact Bool.false_ne_true
  have hcalls : callNames none [] = [] := rfl
  simp [LineTags.events, trimmedTags, hloops, hfunctions, hallocations, hcalls]

/-- Without empty keywords, the effects of a text are those of its cores. -/
theorem LineRules.events_eq_cores {r : LineRules} (h : ∀ k ∈ r.keywords.all, k ≠ [])
    (source : Text) :
    r.events source = source.cores.flatMap fun core => (r.trimmedTags core).events := by
  rw [Text.flatMap_cores (trimmedTags_nil h)]
  rfl

/-! ## Idioms -/

/-- A pair, the first of it no blank, stands in a text just when the two are neighbours in the text
    without its blanks. -/
theorem Idioms.hasPair_iff {first : Char} (hfirst : isBlank first = false) (last : Char)
    (t : Text) :
    hasPair first last t = true ↔ [first, last] <:+: t.filter (!isBlank ·) := by
  induction t with
  | nil => simp [hasPair]
  | cons c cs ih =>
      rw [hasPair, Bool.or_eq_true, ih]
      by_cases hc : isBlank c = true
      · -- a blank starts no pair, and goes
        have hne : (c == first) = false := by
          rw [beq_eq_false_iff_ne]
          rintro rfl
          exact absurd hc (by rw [hfirst]; exact Bool.false_ne_true)
        rw [List.filter_cons_of_neg (by simp [hc]), hne, Bool.false_and]
        simp
      · rw [List.filter_cons_of_pos (by simpa using hc), List.infix_cons_iff]
        -- the next character that is no blank heads the text without its blanks
        have hnext : (cs.dropWhile isBlank).head? = (cs.filter (!isBlank ·)).head? := by
          rw [List.head?_filter, List.find?_not_eq_head?_dropWhile]
        have hpair : (c == first && (cs.dropWhile isBlank).head? == some last) = true ↔
            [first, last] <+: c :: cs.filter (!isBlank ·) := by
          rw [hnext, Bool.and_eq_true, beq_iff_eq, beq_iff_eq, List.cons_prefix_cons, eq_comm]
          refine and_congr_right fun _ => ?_
          cases cs.filter (!isBlank ·) with
          | nil => simp
          | cons d ds => simp [eq_comm]
        rw [hpair]

section SameCores

variable {a b : Text} (hab : a.cores = b.cores)
include hab

/-- Texts with the same cores have the same solid words. -/
theorem Text.has_eq_of_cores_eq {needle : Text} (h : needle.isSolid = true) :
    Text.has needle a = Text.has needle b := by
  rw [Bool.eq_iff_iff, has_iff_exists_core h, has_iff_exists_core h, hab]

/-- Texts with the same cores have the same pairs. -/
theorem Idioms.hasPair_eq_of_cores_eq {first : Char} (hfirst : isBlank first = false)
    (last : Char) : hasPair first last a = hasPair first last b := by
  rw [Bool.eq_iff_iff, hasPair_iff hfirst, hasPair_iff hfirst, Text.filter_eq_flatMap_cores a,
    Text.filter_eq_flatMap_cores b, hab]

theorem Idioms.arrayIn_eq_of_cores_eq : arrayIn a = arrayIn b := by
  rw [arrayIn, arrayIn, Text.has_eq_of_cores_eq hab (by decide),
    Text.has_eq_of_cores_eq hab (by decide), hasPair_eq_of_cores_eq hab (by decide)]

theorem Idioms.mapIn_eq_of_cores_eq : mapIn a = mapIn b := by
  rw [mapIn, mapIn, Text.has_eq_of_cores_eq hab (by decide),
    Text.has_eq_of_cores_eq hab (by decide), hasPair_eq_of_cores_eq hab (by decide)]

/-- Under accepted settings, texts with the same cores have the same outline. -/
theorem Outline.ofSource_eq_of_cores_eq {s : Settings} (hs : s.fault? = none) :
    Outline.ofSource s.lineRules a = Outline.ofSource s.lineRules b := by
  have hk : ∀ k ∈ s.lineRules.keywords.all, k ≠ [] :=
    fun k hk => Settings.ne_nil_of_mem_keywords hs hk
  rw [Outline.ofSource, Outline.ofSource, Reading.ofSource, Reading.ofSource,
    LineRules.events_eq_cores hk, LineRules.events_eq_cores hk, hab]

end SameCores

/-- **Reformatting changes no label.**  Under accepted settings, two texts whose lines are the same
    once trimmed and rid of the empty ones have the same outline and show the same arrays and maps;
    so their reports have the same time labels, the same space label, the same sizes and the same
    samples. -/
theorem Report.ofSource_reformatted {s : Settings} (hs : s.fault? = none) {a b : Text}
    (hab : ((a.splitOn '\n').map Text.trim).filter (· ≠ [])
      = ((b.splitOn '\n').map Text.trim).filter (· ≠ [])) :
    Outline.ofSource s.lineRules a = Outline.ofSource s.lineRules b ∧
    (Idioms.ofSource a).createsArray = (Idioms.ofSource b).createsArray ∧
    (Idioms.ofSource a).createsMap = (Idioms.ofSource b).createsMap ∧
    (Report.ofSource s a).time = (Report.ofSource s b).time ∧
    (Report.ofSource s a).space = (Report.ofSource s b).space ∧
    (Report.ofSource s a).sizes = (Report.ofSource s b).sizes ∧
    (Report.ofSource s a).samples = (Report.ofSource s b).samples := by
  have hcores : a.cores = b.cores := by
    have hne : ∀ t : Text, t.cores = ((t.splitOn '\n').map Text.trim).filter (· ≠ []) := by
      intro t
      refine List.filter_congr fun core _ => ?_
      cases core <;> rfl
    rw [hne, hne, hab]
  have houtline := Outline.ofSource_eq_of_cores_eq hcores hs
  have harray := Idioms.arrayIn_eq_of_cores_eq hcores
  have hmap := Idioms.mapIn_eq_of_cores_eq hcores
  have hestimate : (Study.ofSource s.lineRules a).estimate
      = (Study.ofSource s.lineRules b).estimate :=
    congrArg Outline.estimate houtline
  have hspace : ∀ inferred : Label,
      (Idioms.ofSource a).space inferred = (Idioms.ofSource b).space inferred := by
    intro inferred
    rw [Idioms.space, Idioms.space, Idioms.ofSource, Idioms.ofSource, harray, hmap]
  refine ⟨houtline, harray, hmap, ?_, ?_, rfl, ?_⟩
  · exact congrArg Estimate.time hestimate
  · show (Idioms.ofSource a).space (Study.ofSource s.lineRules a).estimate.space = _
    rw [hspace, hestimate]
    rfl
  · exact congrArg (fun e : Estimate =>
      e.time.map fun l => (Curve.ofLabel l).samples s.sizes) hestimate

/-- An array whose bracket is on the next line, with and without indentation and blank lines. -/
theorem Report.ofSource_reformatted_array :
    Settings.standard.fault? = none ∧
    ((("for (;;) \x7b\nxs =\n[]\n\x7d".toList).splitOn '\n').map Text.trim).filter (· ≠ [])
      = ((("\r\n for (;;) \x7b\r\n\n\t xs =  \r\n\n []\n\x7d \n".toList).splitOn '\n').map
          Text.trim).filter (· ≠ []) ∧
    (Report.ofSource .standard "for (;;) \x7b\nxs =\n[]\n\x7d".toList).space
      = (Report.ofSource .standard
          "\r\n for (;;) \x7b\r\n\n\t xs =  \r\n\n []\n\x7d \n".toList).space :=
  ⟨by decide, by decide, (Report.ofSource_reformatted (by decide) (by decide)).2.2.2.2.1⟩

end OrderOfGrowth
