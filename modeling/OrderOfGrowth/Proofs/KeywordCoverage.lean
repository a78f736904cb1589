import OrderOfGrowth.Outline.Draft
import OrderOfGrowth.Proofs.Lines

/-! # Keyword coverage — which changes of the tables no line can notice

    A line asks each table one question.  The tables for loops and allocations are asked whether
    SOME word passes, so only the shortest words count: two tables that cover each other answer
    alike on every line (`any_eq_of_coverEachOther`).  The table for functions is asked for its
    FIRST word that starts the line, and the length of that word decides what name is declared and
    which calls are the line's own.  Two words that start one line are comparable, so in a table
    without comparable words there is at most one such word, and its place does not matter
    (`find?_eq_of_prefixFree`). -/

namespace OrderOfGrowth

namespace Keywords

/-! ## Tables asked for some word -/

/-- Every word of the second table is above some word of the first. -/
def Covers (below : Text → Text → Prop) (table other : List Text) : Prop :=
  ∀ w ∈ other, ∃ v ∈ table, below v w

/-- Each of the two tables covers the other. -/
def CoverEachOther (below : Text → Text → Prop) (table other : List Text) : Prop :=
  Covers below table other ∧ Covers below other table

section Covers

variable {below : Text → Text → Prop} {table other : List Text}

theorem covers_of_subset (hrefl : ∀ w, below w w) (h : other ⊆ table) :
    Covers below table other :=
  fun w hw => ⟨w, h hw, hrefl w⟩

/-- Order and repetition do not matter. -/
theorem coverEachOther_of_mem_iff (hrefl : ∀ w, below w w) (h : ∀ w, w ∈ table ↔ w ∈ other) :
    CoverEachOther below table other :=
  ⟨covers_of_subset hrefl fun w hw => (h w).mpr hw, covers_of_subset hrefl fun w hw => (h w).mp hw⟩

/-- A word that is above another one of its table can be added at any place. -/
theorem coverEachOther_insert (hrefl : ∀ w, below w w) {before after : List Text} {w : Text}
    (hw : ∃ v ∈ before ++ after, below v w) :
    CoverEachOther below (before ++ after) (before ++ w :: after) := by
  constructor
  · intro x hx
    rcases List.mem_append.mp hx with hx | hx
    · exact ⟨x, List.mem_append_left after hx, hrefl x⟩
    · rcases List.mem_cons.mp hx with rfl | hx
      · exact hw
      · exact ⟨x, List.mem_append_right before hx, hrefl x⟩
  · refine covers_of_subset hrefl fun x hx => ?_
    rcases List.mem_append.mp hx with hx | hx
    · exact List.mem_append_left _ hx
    · exact List.mem_append_right before (List.mem_cons_of_mem w hx)

theorem any_of_covers {test : Text → Bool}
    (hbelow : ∀ v w, below v w → test w = true → test v = true) (h : Covers below table other)
    (hany : other.any test = true) : table.any test = true := by
  obtain ⟨w, hw, htest⟩ := List.any_eq_true.mp hany
  obtain ⟨v, hv, hvw⟩ := h w hw
  exact List.any_eq_true.mpr ⟨v, hv, hbelow v w hvw htest⟩

/-- Tables that cover each other agree on every test that a word hands down to those below it. -/
theorem any_eq_of_coverEachOther {test : Text → Bool}
    (hbelow : ∀ v w, below v w → test w = true → test v = true)
    (h : CoverEachOther below table other) : table.any test = other.any test :=
  Bool.eq_iff_iff.mpr ⟨any_of_covers hbelow h.2, any_of_covers hbelow h.1⟩

end Covers

/-! ## Tables asked for the first word -/

/-- No word of the table is a proper start of another. -/
def PrefixFree (table : List Text) : Prop :=
  ∀ v ∈ table, ∀ w ∈ table, v <+: w → v = w

/-- Of a table without comparable words at most one word starts a line. -/
theorem PrefixFree.eq_of_prefix {table : List Text} (h : PrefixFree table) {v w line : Text}
    (hv : v ∈ table) (hw : w ∈ table) (hvline : v <+: line) (hwline : w <+: line) : v = w := by
  rcases List.prefix_or_prefix_of_prefix hvline hwline with hvw | hwv
  · exact h v hv w hw hvw
  · exact (h w hw v hv hwv).symm

/-- In a table without comparable words, the first word that starts a line is found wherever it
    stands. -/
theorem find?_eq_of_prefixFree {table other : List Text} (hfree : PrefixFree table)
    (h : ∀ w, w ∈ table ↔ w ∈ other) (line : Text) :
    table.find? (·.isPrefixOf line) = other.find? (·.isPrefixOf line) := by
  cases hother : other.find? (·.isPrefixOf line) with
  | none =>
      rw [List.find?_eq_none] at hother ⊢
      exact fun w hw => hother w ((h w).mp hw)
  | some w =>
      have hw : w ∈ table := (h w).mpr (List.mem_of_find?_eq_some hother)
      have hwline := List.find?_some hother
      rw [List.isPrefixOf_iff_prefix] at hwline
      cases htable : table.find? (·.isPrefixOf line) with
      | none =>
          have hnone := List.find?_eq_none.mp htable w hw
          rw [List.isPrefixOf_iff_prefix] at hnone
          exact absurd hwline hnone
      | some v =>
          have hv : v ∈ table := List.mem_of_find?_eq_some htable
          have hvline := List.find?_some htable
          rw [List.isPrefixOf_iff_prefix] at hvline
          rw [hfree.eq_of_prefix hv hw hvline hwline]

/-- Two tables for functions that no line can tell apart: they are the same, or they have the same
    words and none of these is a proper start of another. -/
def SameFunctions (table other : List Text) : Prop :=
  table = other ∨ PrefixFree table ∧ ∀ w, w ∈ table ↔ w ∈ other

end Keywords

open Keywords

/-! ## Lines and outlines -/

/-- Rules with such tables give a line the same tags. -/
theorem LineRules.trimmedTags_eq_of_covers {k l : Keywords} (tracks : Bool)
    (hloops : CoverEachOther (· <+: ·) k.loops l.loops)
    (hfunctions : SameFunctions k.functions l.functions)
    (hallocations : CoverEachOther (· <:+: ·) k.allocations l.allocations) (line : Text) :
    trimmedTags ⟨k, tracks⟩ line = trimmedTags ⟨l, tracks⟩ line := by
  have hkeyword : functionKeyword? ⟨k, tracks⟩ line = functionKeyword? ⟨l, tracks⟩ line := by
    rcases hfunctions with heq | ⟨hfree, hmem⟩
    · rw [functionKeyword?, functionKeyword?, heq]
    · exact find?_eq_of_prefixFree hfree hmem line
  have hloop : k.loops.any (·.isPrefixOf line) = l.loops.any (·.isPrefixOf line) := by
    refine any_eq_of_coverEachOther ?_ hloops
    intro v w hvw hw
    rw [List.isPrefixOf_iff_prefix] at hw ⊢
    exact hvw.trans hw
  have hallocation : k.allocations.any (Text.has · line) = l.allocations.any (Text.has · line) := by
    refine any_eq_of_coverEachOther ?_ hallocations
    intro v w hvw hw
    rw [Text.has_eq_true_iff] at hw ⊢
    exact hvw.trans hw
  simp only [trimmedTags, hkeyword, hloop, hallocation]

/-- Rules with such tables give a source text the same outline. -/
theorem Outline.ofSource_eq_of_covers {k l : Keywords} (tracks : Bool)
    (hloops : CoverEachOther (· <+: ·) k.loops l.loops)
    (hfunctions : SameFunctions k.functions l.functions)
    (hallocations : CoverEachOther (· <:+: ·) k.allocations l.allocations) (source : Text) :
    Outline.ofSource ⟨k, tracks⟩ source = Outline.ofSource ⟨l, tracks⟩ source := by
  have htags : LineRules.tags ⟨k, tracks⟩ = LineRules.tags ⟨l, tracks⟩ :=
    funext fun line =>
      LineRules.trimmedTags_eq_of_covers tracks hloops hfunctions hallocations line.trim
  have hevents : LineRules.events ⟨k, tracks⟩ source = LineRules.events ⟨l, tracks⟩ source := by
    rw [LineRules.events, LineRules.events, htags]
  rw [Outline.ofSource, Outline.ofSource, Reading.ofSource, Reading.ofSource, hevents]

/-- **Tables act as sets, up to coverage.**  For every source text, with or without calls:

    * tables with the same functions give one outline if every loop keyword of either starts with
      one of the other, and every allocation keyword of either has one of the other in it;
    * so the loop and allocation keywords may be reordered and repeated, and a keyword that says no
      more than another one may be added at any place;
    * the function keywords may be reordered and repeated as well if none of them is a proper start
      of another. -/
theorem Outline.ofSource_covered (tracks : Bool) (source : Text) :
    (∀ k l : Keywords, k.functions = l.functions →
      CoverEachOther (· <+: ·) k.loops l.loops →
      CoverEachOther (· <:+: ·) k.allocations l.allocations →
      Outline.ofSource ⟨k, tracks⟩ source = Outline.ofSource ⟨l, tracks⟩ source) ∧
    (∀ (k : Keywords) (loops allocations : List Text),
      (∀ w, w ∈ k.loops ↔ w ∈ loops) → (∀ w, w ∈ k.allocations ↔ w ∈ allocations) →
      Outline.ofSource ⟨k, tracks⟩ source
        = Outline.ofSource ⟨{ k with loops, allocations }, tracks⟩ source) ∧
    (∀ (k : Keywords) (before after : List Text) (w : Text), k.loops = before ++ after →
      (∃ v ∈ k.loops, v <+: w) →
      Outline.ofSource ⟨k, tracks⟩ source
        = Outline.ofSource ⟨{ k with loops := before ++ w :: after }, tracks⟩ source) ∧
    (∀ (k : Keywords) (before after : List Text) (w : Text), k.allocations = before ++ after →
      (∃ v ∈ k.allocations, v <:+: w) →
      Outline.ofSource ⟨k, tracks⟩ source
        = Outline.ofSource ⟨{ k with allocations := before ++ w :: after }, tracks⟩ source) ∧
    (∀ (k : Keywords) (functions : List Text), PrefixFree k.functions →
      (∀ w, w ∈ k.functions ↔ w ∈ functions) →
      Outline.ofSource ⟨k, tracks⟩ source
        = Outline.ofSource ⟨{ k with functions }, tracks⟩ source) := by
  have hstarts : ∀ w : Text, w <+: w := fun _ => List.prefix_rfl
  have hholds : ∀ w : Text, w <:+: w := fun _ => List.infix_rfl
  have hloops : ∀ table : List Text, CoverEachOther (· <+: ·) table table :=
    fun _ => coverEachOther_of_mem_iff hstarts fun _ => Iff.rfl
  have hallocations : ∀ table : List Text, CoverEachOther (· <:+: ·) table table :=
    fun _ => coverEachOther_of_mem_iff hholds fun _ => Iff.rfl
  refine ⟨?_, ?_, ?_, ?_, ?_⟩
  · intro k l hfunctions hl ha
    exact ofSource_eq_of_covers tracks hl (.inl hfunctions) ha source
  · intro k loops allocations hl ha
    exact ofSource_eq_of_covers (k := k) (l := { k with loops, allocations }) tracks
      (coverEachOther_of_mem_iff hstarts hl) (.inl rfl) (coverEachOther_of_mem_iff hholds ha) source
  · intro k before after w hk hw
    rw [hk] at hw
    refine ofSource_eq_of_covers (k := k) (l := { k with loops := before ++ w :: after }) tracks ?_
      (.inl rfl) (hallocations _) source
    rw [hk]
    exact coverEachOther_insert hstarts hw
  · intro k before after w hk hw
    rw [hk] at hw
    refine ofSource_eq_of_covers (k := k) (l := { k with allocations := before ++ w :: after })
      tracks (hloops _) (.inl rfl) ?_ source
    rw [hk]
    exact coverEachOther_insert hholds hw
  · intro k functions hfree hmem
    exact ofSource_eq_of_covers (k := k) (l := { k with functions }) tracks (hloops _)
      (.inr ⟨hfree, hmem⟩) (hallocations _) source

/-- Loops and allocations with keywords that say no more than others, and two function keywords in
    either order, one of them twice. -/
theorem Outline.ofSource_covered_longer :
    let k : Keywords := ⟨["for".toList, "for each".toList], ["fn".toList, "def".toList],
      ["new".toList]⟩
    let l : Keywords := ⟨["for".toList], ["fn".toList, "def".toList],
      ["new Map".toList, "new".toList, "new".toList]⟩
    let functions := ["def".toList, "fn".toList, "def".toList]
    let source := "def walk(n) \x7b\nfor each new Map (walk(n))".toList
    CoverEachOther (· <+: ·) k.loops l.loops ∧
      CoverEachOther (· <:+: ·) k.allocations l.allocations ∧
      Outline.ofSource ⟨k, true⟩ source = Outline.ofSource ⟨l, true⟩ source ∧
      PrefixFree k.functions ∧ (∀ w, w ∈ k.functions ↔ w ∈ functions) ∧
      Outline.ofSource ⟨k, true⟩ source = Outline.ofSource ⟨{ k with functions }, true⟩ source := by
  intro k l functions source
  have hloops : CoverEachOther (· <+: ·) k.loops l.loops := by
    unfold CoverEachOther Covers
    decide
  have hallocations : CoverEachOther (· <:+: ·) k.allocations l.allocations := by
    unfold CoverEachOther Covers
    decide
  have hfree : PrefixFree k.functions := by
    unfold PrefixFree
    decide
  have hmem : ∀ w, w ∈ k.functions ↔ w ∈ functions := by
    simp [k, functions, or_comm]
  obtain ⟨hcovered, -, -, -, hreordered⟩ := Outline.ofSource_covered true source
  exact ⟨hloops, hallocations, hcovered k l rfl hloops hallocations, hfree, hmem,
    hreordered k functions hfree hmem⟩

-- If one function keyword starts another, their order decides which name a line declares.
example :
    (LineRules.trimmedTags ⟨⟨[], ["fn".toList, "fn f".toList], []⟩, false⟩
        "fn foo()".toList).functionName = some "foo".toList ∧
      (LineRules.trimmedTags ⟨⟨[], ["fn f".toList, "fn".toList], []⟩, false⟩
        "fn foo()".toList).functionName = some "oo".toList := by
  decide

end OrderOfGrowth
