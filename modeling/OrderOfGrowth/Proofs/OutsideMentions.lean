import OrderOfGrowth.Proofs.Mentions
import OrderOfGrowth.Proofs.Names

/-! # Mentions outside the declaration — what the recursion of a raw text rests on

    The name of the first function is counted in the whole text, and its declaration is part of the
    text.  What else can be counted is said here by the places at which the name stands:

    * no occurrence starts inside the declared name, since it would reach over its end, where only
      blanks and a parenthesis follow (`Declaration.le_or_ge`);
    * an occurrence in front of the declared name does not end in the blanks behind the keyword, so
      it ends in the keyword or before it (`Declaration.le_keyword`).

    So a text shows recursion if the name stands outside the declaration, as it should, but also if
    the name ends inside the keyword: the letters of the keyword are counted as a mention
    (`Idioms.recursive_iff_outside`). -/

namespace OrderOfGrowth

namespace Text

instance (word t : Text) (i : Nat) : Decidable (StandsAt word t i) :=
  inferInstanceAs (Decidable (word <+: t.drop i))

/-- The characters of a word are those of the text from its place on. -/
theorem StandsAt.getElem? {word t : Text} {i p : Nat} (h : StandsAt word t i) (hge : i ≤ p)
    (hlt : p < i + word.length) : t[p]? = word[p - i]? := by
  obtain ⟨rest, hrest⟩ := h
  have hdrop : (t.drop i)[p - i]? = word[p - i]? := by
    rw [← hrest, List.getElem?_append_left (by omega)]
  rwa [List.getElem?_drop, Nat.add_sub_cancel' hge] at hdrop

/-- From one place up to another, there are only blanks. -/
def BlankFrom (t : Text) (i j : Nat) : Prop :=
  ∀ p, i ≤ p → p < j → ∃ c, t[p]? = some c ∧ isBlank c = true

theorem blankFrom_append {blanks : Text} (h : ∀ c ∈ blanks, isBlank c = true) (front back : Text) :
    BlankFrom (front ++ (blanks ++ back)) front.length (front.length + blanks.length) := by
  intro p hge hlt
  have hp : p - front.length < blanks.length := by omega
  refine ⟨_, ?_, h _ (List.getElem_mem hp)⟩
  rw [List.getElem?_append_right hge, List.getElem?_append_left hp, List.getElem?_eq_getElem hp]

/-- A trimmed text ends with a character that is no blank. -/
theorem exists_last_of_trimmed {t : Text} (h : t.trim = t) (hne : t ≠ []) :
    ∃ c, t[t.length - 1]? = some c ∧ isBlank c = false := by
  refine ⟨t.getLast hne, ?_, ?_⟩
  · rw [← List.getLast?_eq_getElem?, List.getLast?_eq_some_getLast hne]
  · rw [Bool.eq_false_iff]
    intro hblank
    -- the blank would be trimmed off
    have hshort := trim_append_blanks (List.forall_mem_singleton.mpr hblank) t.dropLast
    rw [List.dropLast_append_getLast, h] at hshort
    have hpart : trim t.dropLast <:+: t.dropLast := trim_infix t.dropLast
    have hle := hpart.length_le
    have hpos := List.length_pos_iff.mpr hne
    rw [← hshort, List.length_dropLast] at hle
    omega

end Text

namespace Idioms

/-- The declaration of the first function: its keyword stands at `i`, and its name at `j`. -/
structure Declaration (source name : Text) (i j : Nat) : Prop where
  /-- No keyword stands further in front. -/
  keyword : Text.FirstAt "function".toList source i
  behind : i + "function".toList.length ≤ j
  /-- Only blanks stand between keyword and name. -/
  blanks : Text.BlankFrom source (i + "function".toList.length) j
  stands : Text.StandsAt name source j
  /-- Only blanks stand between the name and the parenthesis, or the end of the text. -/
  ends : ∃ stop, j + name.length ≤ stop ∧ Text.BlankFrom source (j + name.length) stop ∧
    (source[stop]? = some '(' ∨ source[stop]? = none)
  ne_nil : name ≠ []
  trimmed : name.trim = name
  plain : '(' ∉ name

/-- A text whose first function has a name, in parts: what ends with the keyword, blanks, the name,
    blanks, and the rest, which starts with a parenthesis if there is any. -/
theorem exists_parts {source name : Text} (h : firstFunctionName? source = some name) :
    ∃ (i : Nat) (front leading trailing rest : Text),
      Text.FirstAt "function".toList source i ∧ front.length = i + "function".toList.length ∧
      source = front ++ (leading ++ (name ++ (trailing ++ rest))) ∧
      (∀ c ∈ leading, isBlank c = true) ∧ (∀ c ∈ trailing, isBlank c = true) ∧
      (rest[0]? = some '(' ∨ rest[0]? = none) ∧
      name ≠ [] ∧ name.trim = name ∧ '(' ∉ name := by
  obtain ⟨i, between, hfirst, ⟨hparen, hback⟩, htrim, hne⟩ := firstFunctionName?_eq_some_iff.mp h
  obtain ⟨leading, trailing, hsplit, hleading, htrailing⟩ := Text.exists_trim between
  obtain ⟨rest, hdrop, hrest⟩ : ∃ rest,
      source.drop (i + "function".toList.length) = between ++ rest ∧
      (rest[0]? = some '(' ∨ rest[0]? = none) := by
    rcases hback with hall | ⟨back, hall⟩
    · exact ⟨[], by rw [hall, List.append_nil], Or.inr rfl⟩
    · exact ⟨'(' :: back, hall, Or.inl rfl⟩
  refine ⟨i, source.take (i + "function".toList.length), leading, trailing, rest, hfirst, ?_, ?_,
    hleading, htrailing, hrest, hne, ?_, ?_⟩
  · have hin := hfirst.stands.length_le
    rw [List.length_drop, show "function".toList.length = 8 from rfl] at hin
    rw [List.length_take, show "function".toList.length = 8 from rfl]
    omega
  · rw [htrim] at hsplit
    calc source
        = source.take (i + "function".toList.length) ++ (between ++ rest) := by
          rw [← hdrop, List.take_append_drop]
      _ = source.take (i + "function".toList.length)
            ++ (leading ++ (name ++ (trailing ++ rest))) := by
          rw [hsplit]
          simp only [List.append_assoc]
  · rw [← htrim, Text.trim_trim]
  · intro hmem
    exact hparen ((Text.trim_infix between).subset (htrim ▸ hmem))

/-- The presumed name of the first function has a declaration. -/
theorem exists_declaration {source name : Text} (h : firstFunctionName? source = some name) :
    ∃ i j, Declaration source name i j := by
  obtain ⟨i, front, leading, trailing, rest, hfirst, hfront, hsource, hleading, htrailing, hrest,
    hne, htrimmed, hplain⟩ := exists_parts h
  refine ⟨i, i + "function".toList.length + leading.length, hfirst, Nat.le_add_right _ _, ?_, ?_,
    ⟨i + "function".toList.length + leading.length + name.length + trailing.length,
      Nat.le_add_right _ _, ?_, ?_⟩, hne, htrimmed, hplain⟩
  · rw [hsource, ← hfront]
    exact Text.blankFrom_append hleading front _
  · have hname := Text.standsAt_append (front ++ leading) (trailing ++ rest) name
    rwa [List.length_append, List.append_assoc, ← hsource, hfront] at hname
  · have hblank := Text.blankFrom_append htrailing (front ++ (leading ++ name)) rest
    rw [List.length_append, List.length_append, ← Nat.add_assoc, hfront] at hblank
    rw [hsource]
    simpa only [List.append_assoc] using hblank
  · have hparts : source = (front ++ (leading ++ (name ++ trailing))) ++ rest := by
      rw [hsource]
      simp only [List.append_assoc]
    have hlength : (front ++ (leading ++ (name ++ trailing))).length
        = i + "function".toList.length + leading.length + name.length + trailing.length := by
      rw [List.length_append, List.length_append, List.length_append, hfront]
      omega
    rw [hparts, ← hlength, List.getElem?_append_right (Nat.le_refl _), Nat.sub_self]
    exact hrest

/-! ## Where else the name can stand -/

section Occurrence

variable {source name : Text} {i j k : Nat}
variable (hdecl : Declaration source name i j) (hk : Text.StandsAt name source k)
include hdecl hk

/-- An occurrence of the name does not end in blanks. -/
theorem Declaration.end_le_or_lt {a b : Nat} (hblank : Text.BlankFrom source a b) :
    k + name.length ≤ a ∨ b < k + name.length := by
  by_contra hin
  obtain ⟨hlow, hhigh⟩ := not_or.mp hin
  have hpos := List.length_pos_iff.mpr hdecl.ne_nil
  obtain ⟨c, hc, hcblank⟩ := Text.exists_last_of_trimmed hdecl.trimmed hdecl.ne_nil
  obtain ⟨c', hc', hblank'⟩ := hblank (k + name.length - 1) (by omega) (by omega)
  rw [hk.getElem? (by omega) (by omega), show k + name.length - 1 - k = name.length - 1 by omega,
    hc] at hc'
  obtain rfl := Option.some.inj hc'
  rw [hcblank] at hblank'
  exact nomatch hblank'

/-- An occurrence that ends before the declared name ends with the keyword at the latest. -/
theorem Declaration.le_keyword (h : k + name.length ≤ j) :
    k + name.length ≤ i + "function".toList.length := by
  rcases hdecl.end_le_or_lt hk hdecl.blanks with hle | hlt
  · exact hle
  · omega

/-- No occurrence starts inside the declared name. -/
theorem Declaration.le_or_ge : k ≤ j ∨ j + name.length ≤ k := by
  by_contra hin
  obtain ⟨hafter, hbefore⟩ := not_or.mp hin
  obtain ⟨stop, hstop, hblank, hend⟩ := hdecl.ends
  rcases hdecl.end_le_or_lt hk hblank with hle | hlt
  · omega
  · -- the occurrence would reach over the parenthesis, or over the end of the text
    have hchar := hk.getElem? (show k ≤ stop by omega) hlt
    rcases hend with hparen | hnone
    · exact hdecl.plain (List.mem_of_getElem? (hchar.symm.trans hparen))
    · have hle := List.getElem?_eq_none_iff.mp (hchar.symm.trans hnone)
      omega

end Occurrence

/-- Of two occurrences that do not overlap, one lies outside the declaration or ends inside the
    keyword: the later one if it lies behind the declared name, and the earlier one if not. -/
theorem Declaration.outside_or_keyword {source name : Text} {i j p q : Nat}
    (hdecl : Declaration source name i j) (hp : Text.StandsAt name source p)
    (hq : Text.StandsAt name source q) (hpq : p + name.length ≤ q) :
    (∃ k, Text.StandsAt name source k ∧ (k + name.length ≤ i ∨ j + name.length ≤ k)) ∨
    ∃ k, Text.StandsAt name source k ∧
      i < k + name.length ∧ k + name.length ≤ i + "function".toList.length := by
  rcases hdecl.le_or_ge hq with hle | hge
  · have hkeyword := hdecl.le_keyword hp (hpq.trans hle)
    by_cases hbefore : p + name.length ≤ i
    · exact Or.inl ⟨p, hp, Or.inl hbefore⟩
    · exact Or.inr ⟨p, hp, Nat.lt_of_not_le hbefore, hkeyword⟩
  · exact Or.inl ⟨q, hq, Or.inr hge⟩

end Idioms

/-- The name of the first function need not be mentioned outside its declaration for the text to
    show recursion: here its only other occurrence is the first letter of the keyword. -/
theorem Idioms.not_outside_of_recursive :
    let source := "function f(x) \x7b\n  return x;\n\x7d".toList
    let name := ['f']
    Idioms.firstFunctionName? source = some name ∧
    (Idioms.ofSource source).recursive = true ∧
    Idioms.Declaration source name 0 9 ∧
    ¬ ∃ k, Text.StandsAt name source k ∧ (k + name.length ≤ 0 ∨ 9 + name.length ≤ k) := by
  intro source name
  refine ⟨by decide, by decide, ?_, ?_⟩
  · refine ⟨⟨by decide, nofun⟩, by decide, ?_, by decide, ⟨10, by decide, ?_, Or.inl (by decide)⟩,
      by decide, by decide, by decide⟩
    · intro p hlow hhigh
      obtain rfl : p = 8 := by
        rw [show "function".toList.length = 8 from rfl] at hlow
        omega
      exact ⟨' ', by decide, by decide⟩
    · intro p hlow hhigh
      exact absurd hhigh (Nat.not_lt.mpr hlow)
  · rintro ⟨k, hk, hbefore | hafter⟩
    · exact absurd hbefore (Nat.not_succ_le_zero k)
    · have hfree : 'f' ∉ source.drop 10 := by decide
      have hin : source.drop k <:+ source.drop 10 := by
        rw [← Nat.add_sub_cancel' hafter, ← List.drop_drop]
        exact List.drop_suffix _ _
      exact hfree ((hk.isInfix.trans hin.isInfix).subset List.mem_cons_self)

/-- **Recursion in the raw text and mentions outside the declaration.**  In every source text whose
    first function has a name, the name has a declaration: the first keyword, at a place `i`, then
    only blanks, and the name at a place `j`.  The text shows recursion just when the name

    * stands outside the declaration, at a place where it does not overlap what runs from the start
      of the keyword to the end of the declared name, or
    * stands at a place where it ends inside the keyword. -/
theorem Idioms.recursive_iff_outside (source name : Text)
    (h : Idioms.firstFunctionName? source = some name) :
    (∃ i j, Declaration source name i j) ∧
    ∀ i j, Declaration source name i j →
      ((Idioms.ofSource source).recursive = true ↔
        (∃ k, Text.StandsAt name source k ∧
          (k + name.length ≤ i ∨ j + name.length ≤ k)) ∨
        ∃ k, Text.StandsAt name source k ∧
          i < k + name.length ∧ k + name.length ≤ i + "function".toList.length) := by
  refine ⟨Idioms.exists_declaration h, ?_⟩
  intro i j hdecl
  have hbehind := hdecl.behind
  have hapart : (Idioms.ofSource source).recursive = true ↔ Text.StandsApart name source := by
    rw [ofSource, recursionIn_iff_twice, ← Text.twice_iff_standsApart]
    simp only [h, Option.some.injEq, exists_eq_left']
  rw [hapart]
  constructor
  · rintro ⟨p, q, hp, hq, hpq | hqp⟩
    · exact hdecl.outside_or_keyword hp hq hpq
    · exact hdecl.outside_or_keyword hq hp hqp
  · rintro (⟨k, hk, hbefore | hafter⟩ | ⟨k, hk, -, hkeyword⟩)
    · exact ⟨k, j, hk, hdecl.stands, Or.inl (by omega)⟩
    · exact ⟨k, j, hk, hdecl.stands, Or.inr hafter⟩
    · exact ⟨k, j, hk, hdecl.stands, Or.inl (hkeyword.trans hbehind)⟩

/-- A name that starts in front of the keyword and ends inside it. -/
theorem Idioms.recursive_iff_outside_before :
    let source := "xfunction  xf (n) \x7b\x7d".toList
    let name := "xf".toList
    Idioms.firstFunctionName? source = some name ∧
    (Idioms.ofSource source).recursive = true ∧
    (∃ i j, Declaration source name i j) ∧
    ∀ i j, Declaration source name i j →
      ((Idioms.ofSource source).recursive = true ↔
        (∃ k, Text.StandsAt name source k ∧
          (k + name.length ≤ i ∨ j + name.length ≤ k)) ∨
        ∃ k, Text.StandsAt name source k ∧
          i < k + name.length ∧ k + name.length ≤ i + "function".toList.length) := by
  intro source name
  have hname : Idioms.firstFunctionName? source = some name := by decide
  exact ⟨hname, by decide, recursive_iff_outside source name hname⟩

end OrderOfGrowth
