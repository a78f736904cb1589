import OrderOfGrowth.Proofs.Lines

/-! # Occurrences — first ones, and two that do not overlap

    Occurrences are counted greedily: the leftmost is taken, and the search goes on behind it.  An
    occurrence that overlaps one that was taken is lost, so the count is not the number of places at
    which the word stands.  Two occurrences that do not overlap are still seen (`one_lt_count_iff`):
    whatever was taken first ends no later than the first of the two, so the second is still ahead.

    * `count_append_self` and `count_cons_of_not_start` are what a search does next, and nothing
      below unfolds it;
    * `Twice` is the plain meaning of two occurrences;
    * `eq_of_not_twice` says where a word stands if it does not stand there twice.  Its first
      character must not come again in it, so that it cannot overlap itself. -/

namespace OrderOfGrowth

namespace Text

/-! ## The greedy count -/

/-- Passing characters and counting on is counting in the rest. -/
theorem countFrom_eq (needle : Text) (skip found : Nat) (t : Text) :
    countFrom needle skip found t = found + count needle (t.drop skip) := by
  induction t generalizing skip found with
  | nil => simp [countFrom, count]
  | cons c cs ih =>
      cases skip with
      | succ skip => rw [countFrom, ih, List.drop_succ_cons]
      | zero =>
          rw [List.drop_zero, count, countFrom, countFrom]
          split
          · rw [ih, ih]
            omega
          · rw [ih, ih]
            omega

theorem count_nil (needle : Text) : count needle [] = 0 := rfl

/-- A word at the start is counted, and the search goes on behind it. -/
theorem count_append_self {needle : Text} (h : needle ≠ []) (t : Text) :
    count needle (needle ++ t) = 1 + count needle t := by
  obtain ⟨c, cs, rfl⟩ := List.exists_cons_of_ne_nil h
  have hpre : (c :: cs).isPrefixOf (c :: (cs ++ t)) = true :=
    List.isPrefixOf_iff_prefix.mpr (List.prefix_append (c :: cs) t)
  rw [List.cons_append, count, countFrom, if_pos hpre, countFrom_eq, List.length_cons,
    Nat.add_sub_cancel, List.drop_left]

/-- Without a word at the start, the search goes on with the next character. -/
theorem count_cons_of_not_start {needle : Text} {c : Char} {cs : Text}
    (h : ¬ needle <+: c :: cs) : count needle (c :: cs) = count needle cs := by
  rw [← List.isPrefixOf_iff_prefix] at h
  rw [count, countFrom, if_neg h]
  rfl

/-- A word is counted if it stands somewhere. -/
theorem count_pos_iff {needle : Text} (h : needle ≠ []) (t : Text) :
    0 < count needle t ↔ needle <:+: t := by
  induction t with
  | nil => rw [count_nil, List.infix_nil]; exact ⟨nofun, fun hnil => absurd hnil h⟩
  | cons c cs ih =>
      rw [List.infix_cons_iff]
      by_cases hpre : needle <+: c :: cs
      · obtain ⟨rest, hrest⟩ := hpre
        rw [← hrest, count_append_self h]
        exact ⟨fun _ => Or.inl (List.prefix_append _ _), fun _ => by omega⟩
      · rw [count_cons_of_not_start hpre, ih]
        exact ⟨Or.inr, fun hin => hin.resolve_left hpre⟩

/-! ## Two occurrences -/

/-- The word stands in the text at two places that do not overlap. -/
def Twice (word t : Text) : Prop := ∃ a b c, t = a ++ (word ++ (b ++ (word ++ c)))

theorem Twice.of_parts {word u v : Text} (hu : word <:+: u) (hv : word <:+: v) :
    Twice word (u ++ v) := by
  obtain ⟨a, b, rfl⟩ := hu
  obtain ⟨a', b', rfl⟩ := hv
  exact ⟨a, b ++ a', b', by simp only [List.append_assoc]⟩

theorem Twice.append_left {word t : Text} (h : Twice word t) (front : Text) :
    Twice word (front ++ t) := by
  obtain ⟨a, b, c, rfl⟩ := h
  exact ⟨front ++ a, b, c, (List.append_assoc _ _ _).symm⟩

/-- More than one occurrence is counted if there are two that do not overlap. -/
theorem one_lt_count_iff {word : Text} (h : word ≠ []) (t : Text) :
    1 < count word t ↔ Twice word t := by
  induction t with
  | nil =>
      rw [count_nil]
      refine ⟨nofun, ?_⟩
      rintro ⟨a, b, c, heq⟩
      have hnil := (List.append_eq_nil_iff.mp (List.append_eq_nil_iff.mp heq.symm).2).1
      exact absurd hnil h
  | cons x xs ih =>
      by_cases hpre : word <+: x :: xs
      · -- the greedy search takes this one, and of any two the second lies behind it
        obtain ⟨rest, hrest⟩ := hpre
        rw [← hrest, count_append_self h]
        constructor
        · intro hcount
          exact .of_parts (List.infix_refl word) ((count_pos_iff h rest).mp (by omega))
        · rintro ⟨a, b, c, heq⟩
          have hlen : word.length ≤ (a ++ word ++ b).length := by
            simp only [List.length_append]
            omega
          have hdrop : (word ++ rest).drop word.length = rest := List.drop_left
          have hbehind : rest = (a ++ word ++ b).drop word.length ++ (word ++ c) := by
            rw [← List.drop_append_of_le_length hlen, ← hdrop, heq]
            simp only [List.append_assoc]
          have hin : word <:+: rest := ⟨_, c, by rw [hbehind, List.append_assoc]⟩
          have := (count_pos_iff h rest).mpr hin
          omega
      · rw [count_cons_of_not_start hpre, ih]
        constructor
        · intro htwice
          exact htwice.append_left [x]
        · rintro ⟨a, b, c, heq⟩
          cases a with
          | nil => exact absurd ⟨_, heq.symm⟩ hpre
          | cons y a => exact ⟨a, b, c, (List.cons.inj heq).2⟩

/-! ## First occurrences -/

/-- What follows the first occurrence follows an occurrence. -/
theorem exists_of_after? {needle t rest : Text} (h : after? needle t = some rest) :
    ∃ front, t = front ++ (needle ++ rest) := by
  induction t with
  | nil =>
      rw [after?, Option.ite_none_right_eq_some] at h
      obtain ⟨hnil, hrest⟩ := h
      rw [List.isEmpty_iff.mp hnil, ← Option.some.inj hrest]
      exact ⟨[], rfl⟩
  | cons c cs ih =>
      rw [after?] at h
      split at h
      · next hpre =>
          obtain ⟨tail, htail⟩ := List.isPrefixOf_iff_prefix.mp hpre
          rw [← htail, List.drop_left] at h
          exact ⟨[], by rw [← Option.some.inj h, List.nil_append, htail]⟩
      · obtain ⟨front, rfl⟩ := ih h
        exact ⟨c :: front, rfl⟩

/-- There is a first occurrence if there is one at all. -/
theorem exists_after?_of_mem {needle t : Text} (h : needle <:+: t) :
    ∃ rest, after? needle t = some rest := by
  induction t with
  | nil =>
      rw [List.infix_nil] at h
      subst h
      exact ⟨[], rfl⟩
  | cons c cs ih =>
      rw [after?]
      split
      · exact ⟨_, rfl⟩
      · next hpre =>
          rw [List.isPrefixOf_iff_prefix] at hpre
          exact ih ((List.infix_cons_iff.mp h).resolve_left hpre)

/-- A word whose first character does not come again in it stands at one place, or twice. -/
theorem eq_of_not_twice {c : Char} {cs a b r s : Text} (hc : c ∉ cs)
    (heq : a ++ (c :: cs ++ r) = b ++ (c :: cs ++ s))
    (h : ¬ Twice (c :: cs) (a ++ (c :: cs ++ r))) : r = s := by
  -- the later of two places lies behind the earlier one, or else in the word itself
  have hlater : ∀ {d r s : Text}, c :: cs ++ r = d ++ (c :: cs ++ s) →
      r = s ∨ Twice (c :: cs) (c :: cs ++ r) := by
    intro d r s hd
    cases d with
    | nil => exact Or.inl (List.append_cancel_left hd)
    | cons e d =>
        have htail : cs ++ r = d ++ (c :: (cs ++ s)) := (List.cons.inj hd).2
        rcases List.append_eq_append_iff.mp htail with ⟨m, hm, hr⟩ | ⟨m, hm, hr⟩
        · refine Or.inr (.of_parts (List.infix_refl _) ⟨m, s, ?_⟩)
          rw [hr, List.append_assoc]
          rfl
        · cases m with
          | nil =>
              refine Or.inr (.of_parts (List.infix_refl _) ⟨[], s, ?_⟩)
              simpa using hr
          | cons f m =>
              obtain ⟨rfl, -⟩ := List.cons.inj hr
              exact absurd (hm ▸ List.mem_append_right d List.mem_cons_self) hc
  rcases List.append_eq_append_iff.mp heq with ⟨d, -, hd⟩ | ⟨d, hd, hrest⟩
  · exact (hlater hd).resolve_right fun htwice => h (htwice.append_left a)
  · rcases hlater hrest with hsr | htwice
    · exact hsr.symm
    · rw [heq] at h
      exact absurd (htwice.append_left b) h

end Text

end OrderOfGrowth
