import OrderOfGrowth.Idioms
import OrderOfGrowth.Proofs.Occurrences

/-! # Mentions — when the raw text shows recursion

    The raw text shows recursion if the presumed name of its first function is counted more than
    once.  All of that is said here by places in the text, without a search:

    * the keyword is taken at the first place where it stands (`Text.after?_eq_some_iff`), and the
      name ends before the next parenthesis, or with the text (`Text.upTo_eq_iff`);
    * the name is counted more than once if it stands at two places that are far enough apart
      (`Text.twice_iff_standsApart`).  Neither of them need be the place behind the keyword: the
      count goes through the whole text and may take an occurrence that overlaps that one. -/

namespace OrderOfGrowth

namespace Text

/-! ## Places -/

/-- The word stands in the text at the given place. -/
def StandsAt (word t : Text) (i : Nat) : Prop := word <+: t.drop i

/-- The given place is the first one at which the word stands. -/
structure FirstAt (word t : Text) (i : Nat) : Prop where
  stands : StandsAt word t i
  first : ∀ j < i, ¬ StandsAt word t j

/-- The word stands at two places that do not overlap. -/
def StandsApart (word t : Text) : Prop :=
  ∃ i j, StandsAt word t i ∧ StandsAt word t j ∧ (i + word.length ≤ j ∨ j + word.length ≤ i)

theorem standsAt_append (a b word : Text) : StandsAt word (a ++ (word ++ b)) a.length := by
  rw [StandsAt, List.drop_left]
  exact List.prefix_append word b

/-- If the word does not stand at the start, its first place lies one further on. -/
theorem firstAt_cons_iff {word : Text} {c : Char} {cs : Text} (h : ¬ word <+: c :: cs) (i : Nat) :
    FirstAt word (c :: cs) i ↔ ∃ k, i = k + 1 ∧ FirstAt word cs k := by
  constructor
  · rintro ⟨hstands, hfirst⟩
    cases i with
    | zero => exact absurd hstands h
    | succ k =>
        refine ⟨k, rfl, hstands, ?_⟩
        intro j hj hword
        exact hfirst (j + 1) (Nat.succ_lt_succ hj) hword
  · rintro ⟨k, rfl, hstands, hfirst⟩
    refine ⟨hstands, ?_⟩
    intro j hj hword
    cases j with
    | zero => exact h hword
    | succ j => exact hfirst j (Nat.lt_of_succ_lt_succ hj) hword

/-- A word that stands at the start stands there first. -/
theorem firstAt_iff_of_start {word t : Text} (h : word <+: t) (i : Nat) :
    FirstAt word t i ↔ i = 0 := by
  constructor
  · rintro ⟨-, hfirst⟩
    cases i with
    | zero => rfl
    | succ k => exact absurd h (hfirst 0 (Nat.zero_lt_succ k))
  · rintro rfl
    exact ⟨h, nofun⟩

/-! ## Searches by places -/

/-- What the search leaves is the text behind the first place at which the word stands. -/
theorem after?_eq_some_iff {word t rest : Text} :
    after? word t = some rest ↔ ∃ i, FirstAt word t i ∧ rest = t.drop (i + word.length) := by
  induction t with
  | nil =>
      rw [after?, Option.ite_none_right_eq_some, List.isEmpty_iff, Option.some.injEq]
      constructor
      · rintro ⟨rfl, rfl⟩
        exact ⟨0, (firstAt_iff_of_start List.nil_prefix 0).mpr rfl, rfl⟩
      · rintro ⟨i, hfirst, rfl⟩
        have hstands := hfirst.stands
        rw [StandsAt, List.drop_nil, List.prefix_nil] at hstands
        exact ⟨hstands, List.drop_nil.symm⟩
  | cons c cs ih =>
      rw [after?]
      split
      · next hpre =>
          rw [List.isPrefixOf_iff_prefix] at hpre
          simp only [firstAt_iff_of_start hpre, exists_eq_left, Nat.zero_add, Option.some.injEq]
          exact eq_comm
      · next hpre =>
          rw [List.isPrefixOf_iff_prefix] at hpre
          rw [ih]
          simp only [firstAt_cons_iff hpre]
          constructor
          · rintro ⟨i, hfirst, rfl⟩
            refine ⟨i + 1, ⟨i, rfl, hfirst⟩, ?_⟩
            rw [Nat.add_right_comm, List.drop_succ_cons]
          · rintro ⟨_, ⟨i, rfl, hfirst⟩, rfl⟩
            refine ⟨i, hfirst, ?_⟩
            rw [Nat.add_right_comm, List.drop_succ_cons]

theorem upTo_append_of_not_mem {c : Char} {a : Text} (h : c ∉ a) (b : Text) :
    upTo c (a ++ b) = a ++ upTo c b := by
  refine List.takeWhile_append_of_pos fun d hd => ?_
  rw [bne_iff_ne]
  rintro rfl
  exact h hd

theorem upTo_of_not_mem {c : Char} {t : Text} (h : c ∉ t) : t.upTo c = t := by
  have hall := upTo_append_of_not_mem h []
  rwa [List.append_nil, show upTo c [] = [] from rfl, List.append_nil] at hall

theorem upTo_append_cons {c : Char} {head : Text} (h : c ∉ head) (back : Text) :
    upTo c (head ++ c :: back) = head := by
  rw [upTo_append_of_not_mem h, upTo, List.takeWhile_cons_of_neg (by simp), List.append_nil]

/-- The part of a text before a character does not have the character, and is followed by it or by
    nothing. -/
theorem upTo_eq_iff {c : Char} {t head : Text} :
    t.upTo c = head ↔ c ∉ head ∧ (t = head ∨ ∃ back, t = head ++ c :: back) := by
  constructor
  · rintro rfl
    by_cases hmem : c ∈ t
    · obtain ⟨head, back, rfl, hfree⟩ := List.eq_append_cons_of_mem hmem
      rw [upTo_append_cons hfree]
      exact ⟨hfree, Or.inr ⟨back, rfl⟩⟩
    · rw [upTo_of_not_mem hmem]
      exact ⟨hmem, Or.inl rfl⟩
  · rintro ⟨hfree, rfl | ⟨back, rfl⟩⟩
    · exact upTo_of_not_mem hfree
    · exact upTo_append_cons hfree back

/-- Of two places that do not overlap, one lies behind the end of the other; and so do two
    occurrences. -/
theorem twice_iff_standsApart {word t : Text} : Twice word t ↔ StandsApart word t := by
  -- the earlier place divides the text, and the later one lies in what is left
  have hordered : ∀ i j, StandsAt word t i → StandsAt word t j → i + word.length ≤ j →
      Twice word t := by
    intro i j hi hj hle
    obtain ⟨rest, hrest⟩ := hi
    obtain ⟨back, hback⟩ := hj
    have hlater : word <:+: rest := by
      have hdrop : t.drop (i + word.length) = rest := by
        rw [← List.drop_drop, ← hrest, List.drop_left]
      have hin : t.drop j <:+ rest := by
        rw [← hdrop, ← Nat.add_sub_cancel' hle, ← List.drop_drop]
        exact List.drop_suffix _ _
      exact (hback ▸ List.prefix_append word back).isInfix.trans hin.isInfix
    have hsplit : t = t.take i ++ (word ++ rest) := by
      rw [hrest, List.take_append_drop]
    rw [hsplit]
    exact (Twice.of_parts (List.infix_refl word) hlater).append_left _
  constructor
  · rintro ⟨a, b, c, rfl⟩
    refine ⟨a.length, (a ++ (word ++ b)).length, standsAt_append a _ word, ?_, Or.inl ?_⟩
    · have hlater := standsAt_append (a ++ (word ++ b)) c word
      simpa only [List.append_assoc] using hlater
    · simp only [List.length_append]
      omega
  · rintro ⟨i, j, hi, hj, hle | hle⟩
    · exact hordered i j hi hj hle
    · exact hordered j i hj hi hle

end Text

/-! ## Recursion in the raw text -/

namespace Idioms

/-- The presumed name of the first function is what stands, trimmed and not empty, between the first
    keyword and the next parenthesis or the end of the text. -/
theorem firstFunctionName?_eq_some_iff {source name : Text} :
    firstFunctionName? source = some name ↔
      ∃ (i : Nat) (between : Text), Text.FirstAt "function".toList source i ∧
        ('(' ∉ between ∧ (source.drop (i + "function".toList.length) = between ∨
          ∃ back, source.drop (i + "function".toList.length) = between ++ '(' :: back)) ∧
        between.trim = name ∧ name ≠ [] := by
  rw [firstFunctionName?, Option.bind_eq_some_iff]
  simp only [Text.after?_eq_some_iff, ← Text.upTo_eq_iff, Option.ite_none_left_eq_some,
    List.isEmpty_iff, Option.some.injEq]
  constructor
  · rintro ⟨_, ⟨i, hfirst, rfl⟩, hne, rfl⟩
    exact ⟨i, _, hfirst, rfl, rfl, hne⟩
  · rintro ⟨i, _, hfirst, rfl, rfl, hne⟩
    exact ⟨_, ⟨i, hfirst, rfl⟩, hne, rfl⟩

/-- The raw text shows recursion if the presumed name stands in it twice. -/
theorem recursionIn_iff_twice {source : Text} :
    recursionIn source = true ↔
      ∃ name, firstFunctionName? source = some name ∧ Text.Twice name source := by
  rw [recursionIn]
  cases hname : firstFunctionName? source with
  | none => simp
  | some name =>
      obtain ⟨-, -, -, -, -, hne⟩ := firstFunctionName?_eq_some_iff.mp hname
      simp only [decide_eq_true_eq, Text.one_lt_count_iff hne, Option.some.injEq, exists_eq_left']

end Idioms

/-- **When the raw text shows recursion.**  For every source text:

    * it shows recursion just when the function keyword stands in it, the text between the first
      such place and the next parenthesis, or the end, is not blank, and that text, trimmed, stands
      at two places which do not overlap;
    * a word is counted more than once, greedily from the left, just when it stands at two places
      which do not overlap, whichever these are. -/
theorem Idioms.recursive_iff_standsApart (source : Text) :
    ((Idioms.ofSource source).recursive = true ↔
      ∃ (i : Nat) (between : Text), Text.FirstAt "function".toList source i ∧
        ('(' ∉ between ∧ (source.drop (i + "function".toList.length) = between ∨
          ∃ back, source.drop (i + "function".toList.length) = between ++ '(' :: back)) ∧
        between.trim ≠ [] ∧ Text.StandsApart between.trim source) ∧
    ∀ word : Text, word ≠ [] → (1 < Text.count word source ↔ Text.StandsApart word source) := by
  constructor
  · rw [ofSource, recursionIn_iff_twice]
    simp only [firstFunctionName?_eq_some_iff, Text.twice_iff_standsApart]
    constructor
    · rintro ⟨_, ⟨i, between, hfirst, hbetween, rfl, hne⟩, happart⟩
      exact ⟨i, between, hfirst, hbetween, hne, happart⟩
    · rintro ⟨i, between, hfirst, hbetween, hne, happart⟩
      exact ⟨_, ⟨i, between, hfirst, hbetween, rfl, hne⟩, happart⟩
  · intro word hne
    rw [Text.one_lt_count_iff hne, Text.twice_iff_standsApart]

end OrderOfGrowth
