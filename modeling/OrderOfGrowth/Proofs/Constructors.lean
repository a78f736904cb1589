import Mathlib.Data.List.TakeWhile
import OrderOfGrowth.Proofs.Labels
import OrderOfGrowth.Proofs.OnePass
import OrderOfGrowth.Report.Basic

/-! # Constructors — the idioms that the outline counts too

    Arrays and maps are looked for in the raw text, allocations in its trimmed lines.  An array or a
    map is shown by a constructor such as `new Map`, or by a literal such as `{` and `}` with blanks
    between them:

    * a constructor is a solid word, so it lies within one line and survives trimming, and a
      standard allocation keyword stands in it; so its line allocates (`exists_allocates_of_infix`);
    * the lines that allocate are what the tally counts (`allocations_ofSource`), whatever scopes
      are open there, and the tally counts nothing but allocation nodes;
    * a literal is a pair of characters that may stand on different lines
      (`hasPair_iff_holdsPair`).

    Without an allocation in the outline only literals are left (`createsArray_iff`,
    `createsMap_iff`). -/

namespace OrderOfGrowth

/-! ## Lines that allocate -/

/-- A pass counts the lines that allocate. -/
theorem Pass.allocations_foldl_line (lines : List LineTags) (p : Pass) :
    (lines.foldl line p).allocations = p.allocations + lines.countP (·.allocates) := by
  induction lines generalizing p with
  | nil => rfl
  | cons t ts ih =>
      rw [List.foldl_cons, ih, List.countP_cons, line]
      cases t.allocates with
      | true => simp only [if_true]; omega
      | false => rfl

/-- The tally of a source text counts the lines that allocate. -/
theorem Outline.allocations_ofSource (rules : LineRules) (source : Text) :
    (Outline.ofSource rules source).tally.allocations
      = ((source.splitOn '\n').map rules.tags).countP (·.allocates) := by
  have htally : (Outline.ofSource rules source).tally
      = ((rules.events source).foldl Pass.apply Pass.start).tally :=
    Pass.tally_finish_ofEvents (rules.events source)
  have hevents : rules.events source
      = ((source.splitOn '\n').map rules.tags).flatMap LineTags.events := by
    rw [List.flatMap_map]
    rfl
  rw [htally, hevents, Pass.foldl_apply_flatMap_events, Pass.ofLines]
  show (List.foldl Pass.line Pass.start _).allocations = _
  rw [Pass.allocations_foldl_line, show Pass.start.allocations = 0 from rfl, Nat.zero_add]

/-- A line that allocates is counted. -/
theorem Outline.allocations_pos_of_line {rules : LineRules} {source line : Text}
    (hline : line ∈ source.splitOn '\n') (h : (rules.tags line).allocates = true) :
    0 < (Outline.ofSource rules source).tally.allocations := by
  rw [allocations_ofSource]
  exact List.countP_pos_iff.mpr ⟨rules.tags line, List.mem_map_of_mem hline, h⟩

/-- Some node of the outline is an allocation. -/
def Outline.Allocates (t : Outline) : Prop := ∃ node ∈ t.nodes, node.kind = .allocation

/-- What is counted is a node of the outline. -/
theorem Outline.Allocates.of_tally {t : Outline} (h : 0 < t.tally.allocations) : t.Allocates := by
  rw [allocations_tally] at h
  obtain ⟨n, hn, hpos⟩ := List.sum_pos_iff_exists_pos_nat.mp h
  obtain ⟨node, hnode, rfl⟩ := List.mem_map.mp hn
  refine ⟨node, hnode, ?_⟩
  cases node with
  | allocation count => rfl
  | program body => exact absurd rfl (Nat.ne_of_lt hpos)
  | loop body => exact absurd rfl (Nat.ne_of_lt hpos)
  | function name body => exact absurd rfl (Nat.ne_of_lt hpos)
  | call name => exact absurd rfl (Nat.ne_of_lt hpos)

/-! ## Constructors -/

/-- The constructors by which arrays and maps are known. -/
def Idioms.constructors : List Text :=
  ["new Array".toList, "Array(".toList, "new Map".toList, "new Set".toList]

/-- A solid word brings the allocation keyword that stands in it to some line of the text. -/
theorem LineRules.exists_allocates_of_infix {rules : LineRules} {word source : Text}
    (hsolid : word.isSolid = true)
    (hkeyword : rules.keywords.allocations.any (Text.has · word) = true)
    (h : word <:+: source) : ∃ line ∈ source.splitOn '\n', (rules.tags line).allocates = true := by
  obtain ⟨keyword, hmem, hhas⟩ := List.any_eq_true.mp hkeyword
  rw [Text.has_eq_true_iff] at hhas
  obtain ⟨line, hline, hword⟩ :=
    (Text.infix_iff_exists_line (Text.not_mem_of_isSolid hsolid) source).mp h
  refine ⟨line, hline, List.any_eq_true.mpr ⟨keyword, hmem, ?_⟩⟩
  rw [Text.has_eq_true_iff]
  exact hhas.trans ((Text.infix_trim_iff hsolid line).mpr hword)

/-- Every constructor is counted. -/
theorem Outline.allocations_pos_of_constructor {word source : Text}
    (hword : word ∈ Idioms.constructors) (h : word <:+: source) :
    0 < (Outline.ofSource .standard source).tally.allocations := by
  have hwords : ∀ word ∈ Idioms.constructors, word.isSolid = true ∧
      LineRules.standard.keywords.allocations.any (Text.has · word) = true := by decide
  obtain ⟨hsolid, hkeyword⟩ := hwords word hword
  obtain ⟨line, hline, hallocates⟩ := LineRules.exists_allocates_of_infix hsolid hkeyword h
  exact allocations_pos_of_line hline hallocates

/-! ## Literals -/

/-- The text holds `first`, then any blanks, then `last`. -/
def Text.HoldsPair (first last : Char) (t : Text) : Prop :=
  ∃ blanks : Text, (∀ c ∈ blanks, isBlank c = true) ∧ first :: (blanks ++ [last]) <:+: t

/-- The first character behind the blanks. -/
theorem Text.head?_dropWhile_isBlank_iff {last : Char} (hlast : isBlank last = false) (t : Text) :
    (t.dropWhile isBlank).head? = some last ↔
      ∃ blanks : Text, (∀ c ∈ blanks, isBlank c = true) ∧ blanks ++ [last] <+: t := by
  constructor
  · intro h
    obtain ⟨rest, hrest⟩ := List.head?_eq_some_iff.mp h
    refine ⟨t.takeWhile isBlank, fun c hc => List.mem_takeWhile_imp hc, rest, ?_⟩
    rw [List.append_assoc, List.singleton_append, ← hrest, List.takeWhile_append_dropWhile]
  · rintro ⟨blanks, hblanks, rest, rfl⟩
    rw [List.append_assoc, List.dropWhile_append_of_pos hblanks, List.singleton_append,
      List.dropWhile_cons_of_neg (by rw [hlast]; exact Bool.false_ne_true)]
    rfl

/-- The search for a pair finds it wherever it stands. -/
theorem Idioms.hasPair_iff_holdsPair (first : Char) {last : Char} (hlast : isBlank last = false)
    (t : Text) : hasPair first last t = true ↔ t.HoldsPair first last := by
  induction t with
  | nil =>
      refine ⟨nofun, ?_⟩
      rintro ⟨blanks, -, hin⟩
      exact nomatch List.infix_nil.mp hin
  | cons c cs ih =>
      have hhere : (c == first && (cs.dropWhile isBlank).head? == some last) = true ↔
          ∃ blanks : Text, (∀ c ∈ blanks, isBlank c = true) ∧
            first :: (blanks ++ [last]) <+: c :: cs := by
        rw [Bool.and_eq_true, beq_iff_eq, beq_iff_eq, Text.head?_dropWhile_isBlank_iff hlast]
        simp only [List.cons_prefix_cons]
        constructor
        · rintro ⟨rfl, blanks, hblanks, hpre⟩
          exact ⟨blanks, hblanks, rfl, hpre⟩
        · rintro ⟨blanks, hblanks, rfl, hpre⟩
          exact ⟨rfl, blanks, hblanks, hpre⟩
      rw [hasPair, Bool.or_eq_true, hhere, ih, Text.HoldsPair, Text.HoldsPair, ← exists_or]
      refine exists_congr fun blanks => ?_
      rw [List.infix_cons_iff, ← and_or_left]

namespace Idioms

section Uncounted

variable {source : Text} (h : (Outline.ofSource .standard source).tally.allocations = 0)
include h

theorem has_eq_false_of_constructor {word : Text} (hword : word ∈ constructors) :
    Text.has word source = false := by
  rw [Bool.eq_false_iff, ne_eq, Text.has_eq_true_iff]
  intro hin
  exact absurd h (Nat.ne_of_gt (Outline.allocations_pos_of_constructor hword hin))

/-- If nothing is counted, an array is shown by a literal. -/
theorem createsArray_iff :
    (ofSource source).createsArray = true ↔ source.HoldsPair '=' '[' := by
  rw [← hasPair_iff_holdsPair '=' (by decide)]
  show arrayIn source = true ↔ _
  rw [arrayIn, has_eq_false_of_constructor h (by decide), has_eq_false_of_constructor h (by decide),
    Bool.false_or, Bool.false_or]

/-- If nothing is counted, a map is shown by a literal. -/
theorem createsMap_iff :
    (ofSource source).createsMap = true ↔ source.HoldsPair '\x7b' '\x7d' := by
  rw [← hasPair_iff_holdsPair '\x7b' (by decide)]
  show mapIn source = true ↔ _
  rw [mapIn, has_eq_false_of_constructor h (by decide), has_eq_false_of_constructor h (by decide),
    Bool.false_or, Bool.false_or]

end Uncounted

end Idioms

/-! ## Space -/

/-- Space is constant only if nothing is counted. -/
theorem Tally.allocations_eq_zero_of_space {t : Tally} (h : t.space = .constant) :
    t.allocations = 0 := by
  by_contra hne
  rw [space, if_neg hne] at h
  split at h
  · exact absurd h (by decide)
  · exact Label.power_ne (by decide) _ h

/-- **Only a literal goes uncounted.**  For every source text under the standard keywords:

    * every constructor that the raw text shows leaves an allocation in the outline, and is counted;
    * so if the outline has no allocation, the text creates an array just when it holds `=` and `[`,
      and a map just when it holds `{` and `}`, with nothing but blanks in between;
    * and where the space of the estimate is constant, the report replaces it by linear space just
      when the text holds one of these two literals, and keeps it otherwise. -/
theorem Idioms.ofSource_of_unallocated (source : Text) :
    (∀ word ∈ constructors, word <:+: source →
      (Outline.ofSource .standard source).Allocates ∧
      0 < (Outline.ofSource .standard source).tally.allocations) ∧
    ((∀ node ∈ (Outline.ofSource .standard source).nodes, node.kind ≠ .allocation) →
      ((ofSource source).createsArray = true ↔ source.HoldsPair '=' '[') ∧
      ((ofSource source).createsMap = true ↔ source.HoldsPair '\x7b' '\x7d')) ∧
    ((Outline.ofSource .standard source).estimate.space = .constant →
      ((Report.ofSource .standard source).space = .linear ↔
        source.HoldsPair '=' '[' ∨ source.HoldsPair '\x7b' '\x7d') ∧
      ((Report.ofSource .standard source).space ≠ .linear →
        (Report.ofSource .standard source).space = .constant)) := by
  refine ⟨?_, ?_, ?_⟩
  · intro word hword hin
    have hpos := Outline.allocations_pos_of_constructor hword hin
    exact ⟨.of_tally hpos, hpos⟩
  · intro hnone
    have hzero : (Outline.ofSource .standard source).tally.allocations = 0 := by
      by_contra hne
      obtain ⟨node, hnode, hkind⟩ := Outline.Allocates.of_tally (Nat.pos_of_ne_zero hne)
      exact hnone node hnode hkind
    exact ⟨createsArray_iff hzero, createsMap_iff hzero⟩
  · intro hspace
    have hzero := Tally.allocations_eq_zero_of_space hspace
    have hreport : (Report.ofSource .standard source).space
        = (ofSource source).space .constant := by
      rw [← hspace]
      rfl
    rw [hreport, ← createsArray_iff hzero, ← createsMap_iff hzero, Idioms.space, ← Bool.or_eq_true]
    cases (ofSource source).createsArray || (ofSource source).createsMap with
    | true => simp
    | false => simp [show Label.constant ≠ Label.linear by decide]

/-- A literal whose brackets stand on different lines, in a text that allocates nothing. -/
theorem Idioms.ofSource_of_unallocated_lines :
    let source : Text := "for (;;) \x7b\n\t\x7d\nxs =\n\n [1]".toList
    (∀ node ∈ (Outline.ofSource .standard source).nodes, node.kind ≠ .allocation) ∧
      (ofSource source).createsArray = true ∧ (ofSource source).createsMap = true ∧
      (Outline.ofSource .standard source).estimate.space = .constant ∧
      (Report.ofSource .standard source).space = .linear := by
  intro source
  have hnone : ∀ node ∈ (Outline.ofSource .standard source).nodes, node.kind ≠ .allocation := by
    decide
  have harray : source.HoldsPair '=' '[' :=
    ⟨"\n\n ".toList, List.all_eq_true.mp rfl, "for (;;) \x7b\n\t\x7d\nxs ".toList, "1]".toList, rfl⟩
  have hmap : source.HoldsPair '\x7b' '\x7d' :=
    ⟨"\n\t".toList, List.all_eq_true.mp rfl, "for (;;) ".toList, "\nxs =\n\n [1]".toList, rfl⟩
  have hconstant : (Outline.ofSource .standard source).estimate.space = .constant := by
    show (Outline.ofSource .standard source).tally.space = .constant
    rw [Outline.tally_eq_after]
    decide
  obtain ⟨-, hliteral, hspace⟩ := Idioms.ofSource_of_unallocated source
  obtain ⟨harrayIff, hmapIff⟩ := hliteral hnone
  exact ⟨hnone, harrayIff.mpr harray, hmapIff.mpr hmap, hconstant,
    (hspace hconstant).1.mpr (.inl harray)⟩

end OrderOfGrowth
