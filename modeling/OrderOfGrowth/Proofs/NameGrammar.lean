import Mathlib.Data.Set.Subsingleton
import OrderOfGrowth.Proofs.Mentions
import OrderOfGrowth.Proofs.Names

/-! # The grammar of declared names — what may stand behind a function keyword

    A declared name is found by cutting: at the first parenthesis, then at the blanks on both ends,
    then behind the stars, then at the blanks again, and only what is left is asked whether it is a
    name.  The grammar says the same without a cut: blanks, stars, blanks, a name and blanks, any of
    them missing but the name.

    * `nameHead_cutHead` puts back what was cut off: whatever is left, the parts before and behind it
      are blanks and stars;
    * `cutHead_of_nameHead` goes the other way.  Blanks, stars and the characters of names have nothing
      in common, so each cut ends where its part of the grammar ends.  Without stars the blanks on
      both sides of them are one run, which the first cut takes as a whole. -/

namespace OrderOfGrowth

/-! ## The grammar -/

/-- A name is a non-empty row of alphanumeric characters, underscores and dollar signs that does not
    start with an ASCII digit. -/
structure IsIdentifier (n : Text) : Prop where
  ne_nil : n ≠ []
  chars : ∀ c ∈ n, isAlphanumeric c = true ∨ c = '_' ∨ c = '$'
  start : ∀ c ∈ n.head?, c.isDigit = false

/-- The head of a declaration: blanks, the stars of a generator, blanks, the name, blanks. -/
inductive NameHead : Text → Text → Prop where
  | mk {before stars between name after : Text} :
      (∀ c ∈ before, isBlank c = true) → (∀ c ∈ stars, c = '*') →
      (∀ c ∈ between, isBlank c = true) → IsIdentifier name →
      (∀ c ∈ after, isBlank c = true) →
      NameHead (before ++ stars ++ between ++ name ++ after) name

/-- The text declares the name: what stands before its first parenthesis, or the whole text if it
    has none, is a head with that name. -/
def Declares (rest name : Text) : Prop :=
  ∃ head, '(' ∉ head ∧ (rest = head ∨ ∃ back, rest = head ++ '(' :: back) ∧ NameHead head name

theorem isName_iff {n : Text} : isName n = true ↔ IsIdentifier n := by
  cases n with
  | nil => exact ⟨nofun, fun h => absurd rfl h.ne_nil⟩
  | cons c cs =>
      have hchar : ∀ d, isNameChar d = true ↔ isAlphanumeric d = true ∨ d = '_' ∨ d = '$' := by
        intro d
        rw [isNameChar, Bool.or_eq_true, Bool.or_eq_true, beq_iff_eq, beq_iff_eq, or_assoc]
      rw [isName, Bool.and_eq_true, List.all_eq_true, Bool.not_eq_true']
      simp only [hchar]
      constructor
      · rintro ⟨hchars, hstart⟩
        exact ⟨List.cons_ne_nil c cs, hchars, by simpa using hstart⟩
      · rintro ⟨-, hchars, hstart⟩
        exact ⟨hchars, by simpa using hstart⟩

/-! ## Cutting -/

namespace Text

theorem trimStart_of_blanks {t : Text} (h : ∀ c ∈ t, isBlank c = true) : t.trimStart = [] :=
  List.dropWhile_eq_nil_iff.mpr h

/-- Before a name, trimming takes the leading blanks and nothing else. -/
theorem trim_append_name {n : Text} (h : isName n = true) (t : Text) :
    (t ++ n).trim = t.trimStart ++ n := by
  have hkeep : ∀ u v : Text, u ≠ [] → (∀ c ∈ u, c ∈ n) → (u ++ v).dropWhile isBlank = u ++ v := by
    intro u v hne hu
    match u, hne with
    | c :: cs, _ =>
        have hc := isBlank_eq_false_of_isNameChar (isNameChar_of_mem h (hu c List.mem_cons_self))
        exact List.dropWhile_cons_of_neg (by rw [hc]; exact Bool.false_ne_true)
  have hne : n ≠ [] := (isName_iff.mp h).ne_nil
  have hstart : (t ++ n).trimStart = t.trimStart ++ n := by
    rw [trimStart, trimStart, List.dropWhile_append]
    split
    · next hnil =>
        have hname := hkeep n [] hne fun c hc => hc
        rw [List.append_nil] at hname
        rw [hname, List.isEmpty_iff.mp hnil, List.nil_append]
    · rfl
  have hend : ∀ u : Text, (u ++ n).trimEnd = u ++ n := by
    intro u
    have hrev : n.reverse ≠ [] := fun hnil => hne (List.reverse_eq_nil_iff.mp hnil)
    rw [trimEnd, List.reverse_append, hkeep n.reverse u.reverse hrev fun c hc =>
      List.mem_reverse.mp hc, ← List.reverse_append, List.reverse_reverse]
  rw [trim, hstart, hend]

/-- Stars are cut off, and nothing behind them. -/
theorem dropWhile_star_append {stars t : Text} (hstars : ∀ c ∈ stars, c = '*') (ht : '*' ∉ t) :
    (stars ++ t).dropWhile (· == '*') = t := by
  rw [List.dropWhile_append_of_pos fun c hc => beq_iff_eq.mpr (hstars c hc)]
  cases t with
  | nil => rfl
  | cons c cs =>
      refine List.dropWhile_cons_of_neg ?_
      rw [beq_iff_eq]
      rintro rfl
      exact ht List.mem_cons_self

end Text

/-- What the cuts leave of the head of a declaration. -/
def cutHead (head : Text) : Text := Text.trim (head.trim.dropWhile (· == '*'))

/-- Around a name, the cuts take what the grammar puts there. -/
theorem cutHead_of_nameHead {head n : Text} (h : NameHead head n) : cutHead head = n := by
  obtain @⟨before, stars, between, _, after, hbefore, hstars, hbetween, hident, hafter⟩ := h
  have hname := isName_iff.mpr hident
  have hfree : '*' ∉ between ++ n := by
    rw [List.mem_append]
    rintro (hmem | hmem)
    · exact absurd (hbetween _ hmem) (by decide)
    · exact not_mem_of_isName hname (by decide +kernel) hmem
  have hfirst : (before ++ stars ++ between ++ n ++ after).trim
      = (stars ++ between).trimStart ++ n := by
    rw [Text.trim_append_blanks hafter, Text.trim_append_name hname, List.append_assoc,
      Text.trimStart, List.dropWhile_append_of_pos hbefore]
    rfl
  have hlast : (between ++ n).trim = n := by
    rw [Text.trim_append_name hname, Text.trimStart_of_blanks hbetween, List.nil_append]
  rw [cutHead, hfirst]
  cases stars with
  | nil =>
      -- without stars, the blanks between went with those before
      have hnone : '*' ∉ n := fun hmem => hfree (List.mem_append_right between hmem)
      rw [List.nil_append, Text.trimStart_of_blanks hbetween,
        Text.dropWhile_star_append (List.forall_mem_nil _) hnone]
      exact Text.trim_append_name hname []
  | cons c stars =>
      obtain rfl := hstars c List.mem_cons_self
      have hkeep : Text.trimStart ('*' :: stars ++ between) = '*' :: stars ++ between :=
        List.dropWhile_cons_of_neg (by decide)
      rw [hkeep, List.append_assoc, Text.dropWhile_star_append hstars hfree, hlast]

/-- The cuts take nothing but what the grammar puts around a name. -/
theorem nameHead_cutHead {head : Text} (h : isName (cutHead head) = true) :
    NameHead head (cutHead head) := by
  obtain ⟨before, back, hhead, hbefore, hback⟩ := Text.exists_trim head
  obtain ⟨between, after, hrest, hbetween, hafter⟩ :=
    Text.exists_trim (head.trim.dropWhile (· == '*'))
  have hstars : ∀ c ∈ head.trim.takeWhile (· == '*'), c = '*' := by
    intro c hc
    have hstar := List.mem_takeWhile_imp hc
    exact beq_iff_eq.mp hstar
  have hsplit : head
      = before ++ head.trim.takeWhile (· == '*') ++ between ++ cutHead head ++ (after ++ back) :=
    calc head = before ++ (head.trim ++ back) := hhead
      _ = before ++ (head.trim.takeWhile (· == '*') ++ head.trim.dropWhile (· == '*') ++ back) := by
          rw [List.takeWhile_append_dropWhile]
      _ = before ++ (head.trim.takeWhile (· == '*')
            ++ (between ++ (cutHead head ++ after)) ++ back) := by
          rw [cutHead, ← hrest]
      _ = before ++ head.trim.takeWhile (· == '*') ++ between ++ cutHead head
            ++ (after ++ back) := by
          simp only [List.append_assoc]
  have hparts := NameHead.mk hbefore hstars hbetween (isName_iff.mp h)
    (List.forall_mem_append.mpr ⟨hafter, hback⟩)
  rwa [← hsplit] at hparts

theorem declaredName?_eq_some_iff {rest n : Text} :
    declaredName? rest = some n ↔ Declares rest n := by
  show (if isName (cutHead (rest.upTo '(')) then some (cutHead (rest.upTo '(')) else none) = some n
    ↔ Declares rest n
  rw [Option.ite_none_right_eq_some, Option.some.injEq]
  constructor
  · rintro ⟨hname, rfl⟩
    obtain ⟨hfree, hrest⟩ := Text.upTo_eq_iff.mp (rfl : rest.upTo '(' = rest.upTo '(')
    exact ⟨rest.upTo '(', hfree, hrest, nameHead_cutHead hname⟩
  · rintro ⟨head, hfree, hrest, hhead⟩
    rw [Text.upTo_eq_iff.mpr ⟨hfree, hrest⟩, cutHead_of_nameHead hhead]
    obtain ⟨-, -, -, hident, -⟩ := hhead
    exact ⟨isName_iff.mpr hident, rfl⟩

/-- **The grammar of declared names.**  Behind a function keyword, a name is declared just when the
    part before the first parenthesis, or the whole text if there is none, is blanks, stars, blanks,
    that name and blanks.  No text declares two names. -/
theorem declaredName?_grammar (rest : Text) :
    (∀ n, declaredName? rest = some n ↔ Declares rest n) ∧ {n | Declares rest n}.Subsingleton := by
  refine ⟨fun n => declaredName?_eq_some_iff, ?_⟩
  intro n hn m hm
  have hn' := declaredName?_eq_some_iff.mpr hn
  rw [declaredName?_eq_some_iff.mpr hm] at hn'
  exact (Option.some.inj hn').symm

example : declaredName? " ** \n walk (node)".toList = some "walk".toList := by decide +kernel

example : declaredName? "* * walk(node)".toList = none := by decide +kernel

end OrderOfGrowth
