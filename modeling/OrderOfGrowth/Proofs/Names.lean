import Mathlib.Data.List.DropRight
import Mathlib.Data.List.TakeWhile
import OrderOfGrowth.Line.DeclaredName
import OrderOfGrowth.Proofs.Lines

/-! # Names — declared names and the characters they are made of

    The characters of a name are neither blanks nor parentheses nor stars
    (`not_isNameChar_of_isBlank` looks at every blank there is), so whatever is trimmed and cut off
    around a declared name leaves the name itself alone:

    * `declaredName?_blank_cons` reads a name behind a keyword and a blank;
    * `isName_of_declaredName?` says that nothing but a name, taken from the text, is read. -/

namespace OrderOfGrowth

/-! ## Character classes -/

namespace CodeRanges

/-- The code points of the ranges, one by one. -/
def codes (r : CodeRanges) : List Nat :=
  r.flatMap fun (first, last) => List.range' first (last + 1 - first)

theorem mem_codes_of_has {r : CodeRanges} {n : Nat} (h : r.has n = true) : n ∈ r.codes := by
  induction r with
  | nil => exact nomatch h
  | cons range rest ih =>
      obtain ⟨first, last⟩ := range
      rw [has, Bool.and_eq_true, Bool.or_eq_true, decide_eq_true_eq, decide_eq_true_eq] at h
      rw [codes, List.flatMap_cons, List.mem_append, List.mem_range'_1]
      obtain ⟨hfirst, hlast | hrest⟩ := h
      · exact Or.inl ⟨hfirst, by omega⟩
      · exact Or.inr (ih hrest)

end CodeRanges

/-- No blank stands in a name. -/
theorem not_isNameChar_of_isBlank {c : Char} (h : isBlank c = true) : isNameChar c = false := by
  have hcodes : ∀ n ∈ blankRanges.codes,
      (alphanumericRanges.has n || n == '_'.toNat || n == '$'.toNat) = false := by
    decide +kernel
  have hc := hcodes c.toNat (CodeRanges.mem_codes_of_has h)
  rw [Bool.or_eq_false_iff, Bool.or_eq_false_iff] at hc
  obtain ⟨⟨halpha, hline⟩, hdollar⟩ := hc
  have hne : ∀ d : Char, (c.toNat == d.toNat) = false → (c == d) = false := by
    intro d hd
    rw [beq_eq_false_iff_ne] at hd ⊢
    rintro rfl
    exact hd rfl
  rw [isNameChar, isAlphanumeric, halpha, hne _ hline, hne _ hdollar]
  rfl

theorem isBlank_eq_false_of_isNameChar {c : Char} (h : isNameChar c = true) :
    isBlank c = false := by
  rw [Bool.eq_false_iff]
  intro hblank
  rw [not_isNameChar_of_isBlank hblank] at h
  exact nomatch h

/-! ## Trimming -/

namespace Text

/-- A text that neither starts nor ends with a blank is left as it is. -/
theorem trim_of_isSolid {t : Text} (h : t.isSolid = true) : t.trim = t := by
  rw [isSolid, Bool.and_eq_true, Bool.and_eq_true] at h
  obtain ⟨⟨hhead, hlast⟩, -⟩ := h
  have hkeep : ∀ u : Text, u.head?.any (!isBlank ·) = true → u.dropWhile isBlank = u := by
    intro u hu
    obtain ⟨c, cs, rfl, hc⟩ := exists_cons_of_head?_any hu
    exact List.dropWhile_cons_of_neg (by rw [hc]; exact Bool.false_ne_true)
  rw [trim, trimStart, hkeep t hhead, trimEnd, hkeep _ hlast, List.reverse_reverse]

/-- A solid text stays solid behind a text that starts with no blank and stays on its line. -/
theorem isSolid_append {a b : Text} (hhead : a.head?.any (!isBlank ·) = true) (hline : '\n' ∉ a)
    (hb : b.isSolid = true) : (a ++ b).isSolid = true := by
  have hb' : '\n' ∉ b := not_mem_of_isSolid hb
  rw [isSolid, Bool.and_eq_true, Bool.and_eq_true] at hb ⊢
  obtain ⟨c, cs, rfl, hc⟩ := exists_cons_of_head?_any hhead
  obtain ⟨d, ds, hd, -⟩ := exists_cons_of_head?_any hb.1.2
  refine ⟨⟨hhead, ?_⟩, ?_⟩
  · rw [List.reverse_append, hd]
    rw [hd] at hb
    exact hb.1.2
  · rw [Bool.not_eq_true', Bool.eq_false_iff, Ne, List.contains_iff_mem, List.mem_append]
    exact not_or.mpr ⟨hline, hb'⟩

/-- What is left of a text is a part of it. -/
theorem trim_infix (t : Text) : t.trim <:+: t := by
  have hend : t.trim <+: t.trimStart := by
    rw [← List.reverse_suffix, trim, trimEnd, List.reverse_reverse]
    exact List.dropWhile_suffix _
  exact hend.isInfix.trans (List.dropWhile_suffix _).isInfix

/-- Trimming takes away nothing but blanks, at both ends. -/
theorem exists_trim (t : Text) :
    ∃ front back, t = front ++ (t.trim ++ back) ∧
      (∀ c ∈ front, isBlank c = true) ∧ ∀ c ∈ back, isBlank c = true := by
  refine ⟨t.takeWhile isBlank, t.trimStart.rtakeWhile isBlank, ?_, ?_, ?_⟩
  · rw [show t.trim = t.trimStart.rdropWhile isBlank from rfl, List.rdropWhile_append_rtakeWhile]
    exact List.takeWhile_append_dropWhile.symm
  · intro c hc
    exact List.mem_takeWhile_imp hc
  · intro c hc
    exact List.mem_rtakeWhile_imp hc

/-- Blanks at the end do not matter. -/
theorem trim_append_blanks {back : Text} (h : ∀ c ∈ back, isBlank c = true) (t : Text) :
    (t ++ back).trim = t.trim := by
  have hback : back.reverse.dropWhile isBlank = [] := by
    rw [List.dropWhile_eq_nil_iff]
    intro c hc
    exact h c (List.mem_reverse.mp hc)
  have hend : ∀ u : Text, (u ++ back).trimEnd = u.trimEnd := by
    intro u
    rw [trimEnd, trimEnd, List.reverse_append, List.dropWhile_append, hback]
    rfl
  rw [trim, trim, trimStart, trimStart, List.dropWhile_append]
  split
  · next hnil =>
      rw [List.isEmpty_iff.mp hnil, List.dropWhile_eq_nil_iff.mpr h]
  · exact hend _

/-- What has been trimmed stays as it is. -/
theorem trim_trim (t : Text) : t.trim.trim = t.trim := by
  have hstart : t.trimStart.dropWhile isBlank = t.trimStart := List.dropWhile_idempotent isBlank t
  have hend : t.trim <+: t.trimStart := List.rdropWhile_prefix isBlank t.trimStart
  have hkeep : t.trim.trimStart = t.trim := by
    cases htrim : t.trim with
    | nil => rfl
    | cons c cs =>
        -- the first character was there before the end was trimmed, so it is no blank
        obtain ⟨rest, hrest⟩ := hend
        rw [← hrest, htrim] at hstart
        exact List.dropWhile_cons_of_neg
          (List.dropWhile_eq_self_iff.mp hstart (Nat.zero_lt_succ _))
  rw [trim, hkeep]
  exact List.rdropWhile_idempotent isBlank t.trimStart

theorem trim_blank_cons {c : Char} (h : isBlank c = true) (t : Text) : trim (c :: t) = t.trim := by
  rw [trim, trimStart, List.dropWhile_cons_of_pos h]
  rfl

end Text

/-! ## Names -/

theorem isNameChar_of_mem {n : Text} (h : isName n = true) {c : Char} (hc : c ∈ n) :
    isNameChar c = true := by
  match n, h with
  | d :: ds, h =>
      rw [isName, Bool.and_eq_true] at h
      exact List.all_eq_true.mp h.1 c hc

theorem not_mem_of_isName {n : Text} (h : isName n = true) {c : Char}
    (hc : isNameChar c = false) : c ∉ n := by
  intro hmem
  rw [isNameChar_of_mem h hmem] at hc
  exact nomatch hc

theorem isSolid_of_isName {n : Text} (h : isName n = true) : n.isSolid = true := by
  have hsolid : ∀ c ∈ n, (!isBlank c) = true := by
    intro c hc
    rw [isBlank_eq_false_of_isNameChar (isNameChar_of_mem h hc)]
    rfl
  have hhead : ∀ u : Text, u ≠ [] → (∀ c ∈ u, c ∈ n) → u.head?.any (!isBlank ·) = true := by
    intro u hne hu
    match u, hne with
    | c :: cs, _ => exact hsolid c (hu c List.mem_cons_self)
  have hne : n ≠ [] := by
    rintro rfl
    exact nomatch h
  have hline : n.contains '\n' = false := by
    rw [Bool.eq_false_iff, Ne, List.contains_iff_mem]
    exact not_mem_of_isName h (not_isNameChar_of_isBlank (by decide))
  rw [Text.isSolid, hhead n hne fun c hc => hc,
    hhead n.reverse (fun hnil => hne (List.reverse_eq_nil_iff.mp hnil))
      fun c hc => List.mem_reverse.mp hc, hline]
  rfl

/-- A name behind a blank is the name that is declared. -/
theorem declaredName?_blank_cons {n : Text} (h : isName n = true) :
    declaredName? (' ' :: n) = some n := by
  have hup : Text.upTo '(' (' ' :: n) = ' ' :: n := by
    refine List.takeWhile_eq_self_iff.mpr fun c hc => ?_
    rw [bne_iff_ne]
    rintro rfl
    rcases List.mem_cons.mp hc with hblank | hc
    · exact absurd hblank (by decide)
    · exact not_mem_of_isName h (by decide +kernel) hc
  have hstars : n.dropWhile (· == '*') = n := by
    match n, h with
    | c :: cs, h =>
        refine List.dropWhile_cons_of_neg ?_
        rw [beq_iff_eq]
        rintro rfl
        exact not_mem_of_isName h (by decide +kernel) List.mem_cons_self
  have hself := Text.trim_of_isSolid (isSolid_of_isName h)
  rw [declaredName?, hup, Text.trim_blank_cons (by decide), hself]
  simp only [hstars, hself]
  rw [if_pos h]

/-- What is declared is a name, and stands in the text. -/
theorem isName_of_declaredName? {rest n : Text} (h : declaredName? rest = some n) :
    isName n = true ∧ n <:+: rest := by
  rw [declaredName?, Option.ite_none_right_eq_some] at h
  obtain ⟨hname, heq⟩ := h
  obtain rfl := Option.some.inj heq
  have hup : rest.upTo '(' <:+: rest := (List.takeWhile_prefix _).isInfix
  have hstars := (List.dropWhile_suffix (l := (rest.upTo '(').trim) (· == '*')).isInfix
  exact ⟨hname, (Text.trim_infix _).trans (hstars.trans ((Text.trim_infix _).trans hup))⟩

end OrderOfGrowth
