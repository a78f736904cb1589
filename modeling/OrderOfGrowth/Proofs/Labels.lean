import OrderOfGrowth.Estimate
import OrderOfGrowth.Proofs.Traversal

/-! # Labels — what their texts tell apart

    A label is only a text, and the texts come from three places: a few names, an exponent in
    decimal digits, and a logarithmic factor written around another label.  No two of these give the
    same text, and each of them can be read back:

    * the exponent is read off its digits (`power_inj`), and what stands inside a factor off the
      factor (`withLogFactor_inj`);
    * only a spelled power has a caret, so it is none of the named labels (`power_ne`); a factor
      around a label has the letter of a class twice, so it is none of them either
      (`withLogFactor_ne`).

    So the labels of an estimate show what they were made from, and nothing else.  That is the loop
    depth of the outline, its allocations and its self-calls (`Tally.Describes`). -/

namespace OrderOfGrowth

/-- The digits of a number show which number it is. -/
theorem Text.ofNat_inj {j k : Nat} : Text.ofNat j = Text.ofNat k ↔ j = k := by
  constructor
  · intro h
    calc j = Nat.ofDigitChars 10 (Text.ofNat j) 0 := Nat.ofDigitChars_ten_toDigits.symm
      _ = Nat.ofDigitChars 10 (Text.ofNat k) 0 := by rw [h]
      _ = k := Nat.ofDigitChars_ten_toDigits
  · rintro rfl
    rfl

namespace Label

/-- The labels that have a name of their own. -/
def named : List Label := [constant, logarithmic, linear, linearithmic, quadratic, cubic]

/-! ## Powers -/

theorem power_inj {j k : Nat} : power j = power k ↔ j = k := by
  constructor
  · intro h
    have hopened : "O(n^".toList ++ Text.ofNat j = "O(n^".toList ++ Text.ofNat k :=
      List.append_cancel_right (congrArg text h)
    exact Text.ofNat_inj.mp (List.append_cancel_left hopened)
  · rintro rfl
    rfl

/-- A spelled power has a caret, and a named label has none. -/
theorem power_ne {l : Label} (h : l ∈ named) (k : Nat) : power k ≠ l := by
  rintro rfl
  have hplain : ∀ l ∈ named, '^' ∉ l.text := by decide
  refine hplain _ h ?_
  exact List.mem_append_left _ (List.mem_append_left _ (by decide))

/-! ## Loop nests -/

/-- A loop nest has a name up to depth three, and is a spelled power from there on. -/
theorem ofLoopDepth_cases (d : Nat) :
    (d ≤ 3 ∧ ofLoopDepth d ∈ named) ∨ (3 < d ∧ ofLoopDepth d = power d) := by
  match d with
  | 0 | 1 | 2 | 3 => exact Or.inl (by decide)
  | d + 4 => exact Or.inr ⟨by omega, rfl⟩

theorem ofLoopDepth_inj {d e : Nat} : ofLoopDepth d = ofLoopDepth e ↔ d = e := by
  constructor
  · intro h
    rcases ofLoopDepth_cases d with ⟨hd, hnamed⟩ | ⟨-, hpower⟩
    · rcases ofLoopDepth_cases e with ⟨he, -⟩ | ⟨-, hpower⟩
      · have hsmall : ∀ d ≤ 3, ∀ e ≤ 3, ofLoopDepth d = ofLoopDepth e → d = e := by decide
        exact hsmall d hd e he h
      · exact absurd (hpower.symm.trans h.symm) (power_ne hnamed e)
    · rcases ofLoopDepth_cases e with ⟨-, hnamed⟩ | ⟨-, hpower'⟩
      · exact absurd (hpower.symm.trans h) (power_ne hnamed d)
      · rwa [hpower, hpower', power_inj] at h
  · rintro rfl
    rfl

/-- No loop nest is logarithmic. -/
theorem ofLoopDepth_ne_logarithmic (d : Nat) : ofLoopDepth d ≠ logarithmic := by
  match d with
  | 0 | 1 | 2 | 3 => decide
  | d + 4 => exact power_ne (by decide) (d + 4)

/-- The label of every loop nest has the letter of a class in it. -/
theorem mem_text_ofLoopDepth (d : Nat) : 'O' ∈ (ofLoopDepth d).text := by
  rcases ofLoopDepth_cases d with ⟨-, hnamed⟩ | ⟨-, hpower⟩
  · have hall : ∀ l ∈ named, 'O' ∈ l.text := by decide
    exact hall _ hnamed
  · rw [hpower]
    exact List.mem_append_left _ (List.mem_append_left _ (by decide))

/-! ## Logarithmic factors -/

theorem withLogFactor_inj {l m : Label} : l.withLogFactor = m.withLogFactor ↔ l = m := by
  constructor
  · intro h
    have hinner : "O(".toList ++ l.text = "O(".toList ++ m.text :=
      List.append_cancel_right (congrArg text h)
    exact congrArg mk (List.append_cancel_left hinner)
  · rintro rfl
    rfl

/-- A factor around a label has the letter of a class once more than the label, and a named label
    has it once. -/
theorem withLogFactor_ne {l m : Label} (hl : 'O' ∈ l.text) (hm : m ∈ named) :
    l.withLogFactor ≠ m := by
  rintro rfl
  have honce : ∀ m ∈ named, List.count 'O' m.text = 1 := by decide
  have hone := honce _ hm
  have hinner : 0 < List.count 'O' l.text := List.count_pos_iff.mpr hl
  have hopen : List.count 'O' "O(".toList = 1 := by decide
  simp only [withLogFactor, List.count_append, hopen] at hone
  omega

end Label

/-! ## Estimates -/

namespace Tally

/-- The time labels show the loop depth and whether there is recursion. -/
theorem time_eq_iff {t u : Tally} :
    t.time = u.time ↔ t.deepest = u.deepest ∧ t.recursive = u.recursive := by
  -- the best case tells the two families apart, and the average case the depths inside each
  have hbest : ∀ d e, Cases.all (Label.ofLoopDepth d)
      ≠ TimeLabels.recursive (Cases.all (Label.ofLoopDepth e)) := by
    intro d e h
    exact Label.ofLoopDepth_ne_logarithmic d (congrArg Cases.best h)
  constructor
  · intro h
    rw [time, time] at h
    cases ht : t.recursive <;> cases hu : u.recursive <;> rw [ht, hu] at h
    · exact ⟨Label.ofLoopDepth_inj.mp (congrArg Cases.average h), rfl⟩
    · exact absurd h (hbest _ _)
    · exact absurd h.symm (hbest _ _)
    · have haverage := congrArg Cases.average h
      exact ⟨Label.ofLoopDepth_inj.mp (Label.withLogFactor_inj.mp haverage), rfl⟩
  · rintro ⟨hdeepest, hrecursive⟩
    rw [time, time, hdeepest, hrecursive]

theorem space_of_recursive {t : Tally} (h : t.recursive = true) : t.space = .logarithmic := by
  rw [space, if_pos h]

/-- Without recursion, the space label is not the logarithmic one. -/
theorem space_ne_logarithmic {t : Tally} (h : t.recursive = false) :
    t.space ≠ .logarithmic := by
  rw [space, h, if_neg Bool.false_ne_true]
  by_cases hzero : t.allocations = 0
  · rw [if_pos hzero]
    decide
  · rw [if_neg hzero]
    exact Label.power_ne (by decide) t.allocations

/-- Without recursion, the space label shows the number of allocations. -/
theorem space_eq_iff_of_plain {t u : Tally} (ht : t.recursive = false)
    (hu : u.recursive = false) : t.space = u.space ↔ t.allocations = u.allocations := by
  have hconstant : ∀ k, Label.power k ≠ .constant := Label.power_ne (by decide)
  rw [space, space, ht, hu, if_neg Bool.false_ne_true, if_neg Bool.false_ne_true]
  by_cases hzero : t.allocations = 0 <;> by_cases hzero' : u.allocations = 0
  · simp only [hzero, hzero', if_true]
  · rw [if_pos hzero, if_neg hzero']
    exact ⟨fun h => absurd h.symm (hconstant _), fun h => absurd (h ▸ hzero) hzero'⟩
  · rw [if_neg hzero, if_pos hzero']
    exact ⟨fun h => absurd h (hconstant _), fun h => absurd (h ▸ hzero') hzero⟩
  · rw [if_neg hzero, if_neg hzero', Label.power_inj]

end Tally

/-- **Labels are faithful.**  For any two outlines, whatever their loop depths and allocations:

    * their estimates have the same time labels just when they have the same loop depth and the
      same answer to whether there is recursion;
    * they have the same space label just when both are recursive, or neither is and they allocate
      equally often.

    The loop depth, the answer and the number of allocations are those of the outlines. -/
theorem Outline.labels_eq_iff (t u : Outline) :
    (t.estimate.time = u.estimate.time ↔
      t.estimate.tally.deepest = u.estimate.tally.deepest ∧
      t.estimate.tally.recursive = u.estimate.tally.recursive) ∧
    (t.estimate.space = u.estimate.space ↔
      (t.estimate.tally.recursive = true ∧ u.estimate.tally.recursive = true) ∨
      (t.estimate.tally.recursive = false ∧ u.estimate.tally.recursive = false ∧
        t.estimate.tally.allocations = u.estimate.tally.allocations)) ∧
    t.estimate.tally.Describes t ∧ u.estimate.tally.Describes u := by
  refine ⟨Tally.time_eq_iff, ?_, t.describes_tally, u.describes_tally⟩
  show t.tally.space = u.tally.space ↔
    (t.tally.recursive = true ∧ u.tally.recursive = true) ∨
    (t.tally.recursive = false ∧ u.tally.recursive = false ∧
      t.tally.allocations = u.tally.allocations)
  cases ht : t.tally.recursive <;> cases hu : u.tally.recursive
  · simpa using Tally.space_eq_iff_of_plain ht hu
  · have hne := Tally.space_ne_logarithmic ht
    rw [← Tally.space_of_recursive hu] at hne
    simpa using hne
  · have hne := Tally.space_ne_logarithmic hu
    rw [← Tally.space_of_recursive ht] at hne
    simpa using hne.symm
  · simpa using (Tally.space_of_recursive ht).trans (Tally.space_of_recursive hu).symm

end OrderOfGrowth
