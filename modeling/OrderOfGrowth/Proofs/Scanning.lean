import Mathlib.Data.List.Forall2
import Mathlib.Data.Nat.Digits.Defs
import OrderOfGrowth.Json.Scanner
import OrderOfGrowth.Json.Writer

/-! # Scanning — strings and numbers are read to their end

    A scanner is held against the texts that it has to read with any text behind them, since a
    string or a number mostly stands in the middle of a text.

    * `stringFrom_of_spellsString` — a string is read up to its closing quote, however its
      characters are escaped, and `spellsString_flatMap` says that what the writer makes is one of
      its spellings;
    * `number_ofNat` — the decimal digits of a number below `2 ^ 64` are read up to the first
      character that cannot continue them, and their value is the number again;
    * `skipNumber_of_isNumber` — a number of any form and size is passed over to its end. -/

namespace OrderOfGrowth.Json

/-! ## Blanks -/

theorem eq_of_isJsonBlank {c : Char} (h : isJsonBlank c = true) :
    c = ' ' ∨ c = '\n' ∨ c = '\t' ∨ c = '\r' := by
  simpa [isJsonBlank, or_assoc] using h

@[simp] theorem skipBlanks_cons_of_not {c : Char} (h : isJsonBlank c = false) (t : Text) :
    skipBlanks (c :: t) = c :: t :=
  List.dropWhile_cons_of_neg (by simp [h])

@[simp] theorem skipBlanks_skipBlanks (t : Text) : skipBlanks (skipBlanks t) = skipBlanks t := by
  induction t with
  | nil => rfl
  | cons c t ih =>
      cases hc : isJsonBlank c with
      | true => rwa [show skipBlanks (c :: t) = skipBlanks t from List.dropWhile_cons_of_pos hc]
      | false => rw [skipBlanks_cons_of_not hc, skipBlanks_cons_of_not hc]

theorem skipBlanks_append {blanks : Text} (h : ∀ c ∈ blanks, isJsonBlank c) (t : Text) :
    skipBlanks (blanks ++ t) = skipBlanks t :=
  List.dropWhile_append_of_pos h

theorem length_skipBlanks_le (t : Text) : (skipBlanks t).length ≤ t.length :=
  (List.dropWhile_suffix _).length_le

theorem length_lt_of_skipBlanks_eq {t u : Text} {c : Char} (h : skipBlanks t = c :: u) :
    u.length < t.length := by
  have := length_skipBlanks_le t
  rwa [h, List.length_cons] at this

/-! ## Strings -/

/-- Can the character stand in a string as it is? -/
def isPlain (c : Char) : Bool := c != '"' && c != '\\' && 0x20 ≤ c.toNat

/-- The letters that may follow a backslash, and what they stand for. -/
def shortEscapes : List (Char × Char) :=
  [('"', '"'), ('\\', '\\'), ('/', '/'), ('b', '\x08'), ('f', '\x0c'), ('n', '\n'), ('r', '\r'),
    ('t', '\t')]

/-- The hexadecimal digit of a value, in either case. -/
def IsHex (k : Nat) (c : Char) : Prop :=
  k < 16 ∧ (c = Nat.digitChar k ∨ c = (Nat.digitChar k).toUpper)

instance (k : Nat) (c : Char) : Decidable (IsHex k c) :=
  inferInstanceAs (Decidable (k < 16 ∧ (c = Nat.digitChar k ∨ c = (Nat.digitChar k).toUpper)))

/-- The escape of a number by its four hexadecimal digits. -/
inductive UnitEscape : Nat → Text → Prop where
  | mk {a b c d : Nat} {w x y z : Char} :
      IsHex a w → IsHex b x → IsHex c y → IsHex d z →
      UnitEscape (((a * 16 + b) * 16 + c) * 16 + d) ['\\', 'u', w, x, y, z]

/-- The numbers that stand for a character in escapes: its own, or a pair of surrogates. -/
def units (c : Char) : List Nat :=
  if c.toNat < 0x10000 then [c.toNat]
  else [0xD800 + (c.toNat - 0x10000) / 0x400, 0xDC00 + (c.toNat - 0x10000) % 0x400]

/-- The texts that stand for a character in a string. -/
inductive SpellsChar (c : Char) : Text → Prop where
  | plain : isPlain c = true → SpellsChar c [c]
  | short {e : Char} : (e, c) ∈ shortEscapes → SpellsChar c ['\\', e]
  | code {us : List Text} : List.Forall₂ UnitEscape (units c) us → SpellsChar c us.flatten

/-- The texts of a string from behind its opening quote, with what follows the closing one. -/
def SpellsString (s t rest : Text) : Prop :=
  ∃ us, List.Forall₂ SpellsChar s us ∧ t = us.flatten ++ '"' :: rest

theorem length_lt_of_spellsString {s t rest : Text} (h : SpellsString s t rest) :
    rest.length < t.length := by
  obtain ⟨us, -, rfl⟩ := h
  rw [List.length_append, List.length_cons]
  omega

/-! ### Escapes -/

theorem hexDigit?_of_isHex {k : Nat} {c : Char} (h : IsHex k c) : hexDigit? c = some k := by
  have hdigits : ∀ k < 16, hexDigit? (Nat.digitChar k) = some k ∧
      hexDigit? (Nat.digitChar k).toUpper = some k := by decide
  obtain ⟨hk, rfl | rfl⟩ := h
  · exact (hdigits k hk).1
  · exact (hdigits k hk).2

/-- Four digits give back their number. -/
theorem hexDigits_of_unitEscape {n : Nat} {u : Text} (h : UnitEscape n u) :
    ∃ ds, u = '\\' :: 'u' :: ds ∧ ∀ rest, hexDigits (ds ++ rest) = .ok (n, rest) := by
  obtain ⟨ha, hb, hc, hd⟩ := h
  refine ⟨_, rfl, fun rest => ?_⟩
  simp [hexDigits, hexFour?, hexDigit?_of_isHex ha, hexDigit?_of_isHex hb, hexDigit?_of_isHex hc,
    hexDigit?_of_isHex hd]

theorem escape?_of_mem {e c : Char} (h : (e, c) ∈ shortEscapes) : escape? e = some c := by
  have hall : ∀ p ∈ shortEscapes, escape? p.1 = some p.2 := by decide
  exact hall (e, c) h

/-- The escapes of a character by number give it back. -/
theorem escaped_of_units {c : Char} {us : List Text} (h : List.Forall₂ UnitEscape (units c) us) :
    ∃ t, us.flatten = '\\' :: t ∧ ∀ rest, escaped (t ++ rest) = .ok (c, rest) := by
  have hvalid : c.toNat < 0xD800 ∨ 0xDFFF < c.toNat ∧ c.toNat < 0x110000 := c.valid
  have hcode : ∀ t, escaped ('u' :: t) = codeEscape t := fun t => rfl
  rw [units] at h
  split at h
  · next hsmall =>
      obtain ⟨u, us, hu, hus, rfl⟩ := List.forall₂_cons_left_iff.mp h
      obtain rfl := List.forall₂_nil_left_iff.mp hus
      obtain ⟨ds, rfl, hds⟩ := hexDigits_of_unitEscape hu
      refine ⟨'u' :: ds, by simp, fun rest => ?_⟩
      -- the number of a character is no surrogate
      have htrailing : isTrailing c.toNat = false := by
        rw [isTrailing, Bool.and_eq_false_iff, decide_eq_false_iff_not, decide_eq_false_iff_not]
        omega
      have hleading : isLeading c.toNat = false := by
        rw [isLeading, Bool.and_eq_false_iff, decide_eq_false_iff_not, decide_eq_false_iff_not]
        omega
      rw [List.cons_append, hcode, codeEscape, hds]
      simp [htrailing, hleading, Char.ofNat_toNat]
  · next hlarge =>
      obtain ⟨u, _, hu, hus, rfl⟩ := List.forall₂_cons_left_iff.mp h
      obtain ⟨v, _, hv, hnil, rfl⟩ := List.forall₂_cons_left_iff.mp hus
      obtain rfl := List.forall₂_nil_left_iff.mp hnil
      obtain ⟨ds, rfl, hds⟩ := hexDigits_of_unitEscape hu
      obtain ⟨es, rfl, hes⟩ := hexDigits_of_unitEscape hv
      refine ⟨'u' :: (ds ++ '\\' :: 'u' :: es), by simp, fun rest => ?_⟩
      have hnotTrailing : isTrailing (0xD800 + (c.toNat - 0x10000) / 0x400) = false := by
        rw [isTrailing, Bool.and_eq_false_iff, decide_eq_false_iff_not, decide_eq_false_iff_not]
        omega
      have hleading : isLeading (0xD800 + (c.toNat - 0x10000) / 0x400) = true := by
        rw [isLeading, Bool.and_eq_true, decide_eq_true_eq, decide_eq_true_eq]
        omega
      have htrailing : isTrailing (0xDC00 + (c.toNat - 0x10000) % 0x400) = true := by
        rw [isTrailing, Bool.and_eq_true, decide_eq_true_eq, decide_eq_true_eq]
        omega
      have hvalue : (0xD800 + (c.toNat - 0x10000) / 0x400 - 0xD800) * 0x400
          + (0xDC00 + (c.toNat - 0x10000) % 0x400 - 0xDC00) + 0x10000 = c.toNat := by
        omega
      have hsecond : trailingEscape ('\\' :: 'u' :: (es ++ rest))
          = .ok (0xDC00 + (c.toNat - 0x10000) % 0x400, rest) := by
        rw [trailingEscape, if_pos ⟨rfl, rfl⟩, hes]
        exact if_pos htrailing
      rw [List.cons_append, List.append_assoc, List.cons_append, List.cons_append, hcode,
        codeEscape, hds]
      dsimp only
      rw [if_neg (by rw [hnotTrailing]; exact Bool.false_ne_true), if_pos hleading, hsecond]
      dsimp only
      rw [hvalue, Char.ofNat_toNat]

/-! ### Reading -/

theorem stringFrom_backslash {t after : Text} {c : Char} (h : escaped t = .ok (c, after))
    (done : Text) : stringFrom done ('\\' :: t) = stringFrom (c :: done) after := by
  rw [stringFrom, if_neg (by decide), if_pos rfl]
  split
  · next hok => cases h.symm.trans hok; rfl
  · next herror => cases h.symm.trans herror

/-- A character is read in one go, whichever way it is spelled. -/
theorem stringFrom_of_spellsChar {c : Char} {u : Text} (h : SpellsChar c u) (done rest : Text) :
    stringFrom done (u ++ rest) = stringFrom (c :: done) rest := by
  cases h with
  | plain hplain =>
      simp only [isPlain, Bool.and_eq_true, bne_iff_ne, decide_eq_true_eq] at hplain
      obtain ⟨⟨hquote, hbackslash⟩, hcontrol⟩ := hplain
      rw [List.singleton_append, stringFrom, if_neg hquote, if_neg hbackslash,
        if_neg (Nat.not_lt.mpr hcontrol)]
  | short hescape =>
      refine stringFrom_backslash ?_ done
      show escaped (_ :: rest) = _
      rw [escaped, escape?_of_mem hescape]
  | code hunits =>
      obtain ⟨t, heq, ht⟩ := escaped_of_units hunits
      rw [heq]
      exact stringFrom_backslash (ht rest) done

/-- A string is read up to its closing quote. -/
theorem stringFrom_of_spellsString {s t rest : Text} (h : SpellsString s t rest) (done : Text) :
    stringFrom done t = .ok (done.reverse ++ s, rest) := by
  obtain ⟨us, hus, rfl⟩ := h
  induction hus generalizing done with
  | nil => rw [List.flatten_nil, List.nil_append, stringFrom, if_pos rfl, List.append_nil]
  | cons hu _ ih =>
      rw [List.flatten_cons, List.append_assoc, stringFrom_of_spellsChar hu, ih, List.reverse_cons,
        List.append_assoc, List.singleton_append]

/-! ### Writing -/

theorem isHex_digitChar {k : Nat} (h : k < 16) : IsHex k (Nat.digitChar k) := ⟨h, .inl rfl⟩

/-- A written character is a spelling of it. -/
theorem spellsChar_escapedChar (c : Char) : SpellsChar c (escapedChar c) := by
  unfold escapedChar
  split_ifs with hquote hbackslash hb hf hn hr ht hcontrol
  -- Seven characters have a letter of their own.
  iterate 7
    subst c
    exact .short (by decide)
  · -- The other controls are escaped by number.
    have hescape := UnitEscape.mk (isHex_digitChar (show 0 < 16 by decide))
      (isHex_digitChar (show 0 < 16 by decide)) (isHex_digitChar (show c.toNat / 16 < 16 by omega))
      (isHex_digitChar (show c.toNat % 16 < 16 by omega))
    rw [show ((0 * 16 + 0) * 16 + c.toNat / 16) * 16 + c.toNat % 16 = c.toNat by omega] at hescape
    have hunits : units c = [c.toNat] := if_pos (by omega)
    have hcode := List.Forall₂.cons hescape .nil
    rw [← hunits] at hcode
    have hspells := SpellsChar.code hcode
    rw [List.flatten_singleton] at hspells
    exact hspells
  · refine .plain ?_
    simp only [isPlain, Bool.and_eq_true, bne_iff_ne, decide_eq_true_eq]
    exact ⟨⟨hquote, hbackslash⟩, Nat.not_lt.mp hcontrol⟩

/-- A written string is a spelling of it. -/
theorem spellsString_flatMap (s rest : Text) :
    SpellsString s (s.flatMap escapedChar ++ '"' :: rest) rest := by
  refine ⟨s.map escapedChar, ?_, by rw [List.flatMap_def]⟩
  exact List.forall₂_map_right_iff.mpr (List.forall₂_same.mpr fun c _ => spellsChar_escapedChar c)

/-- A string starts with a quote and ends with one. -/
theorem string_append (t rest : Text) :
    string t ++ rest = '"' :: (t.flatMap escapedChar ++ '"' :: rest) := by
  rw [string, List.cons_append, List.append_assoc, List.singleton_append]

/-! ## Whole numbers -/

/-- Can the text not continue a number? -/
def endsNumber : Text → Bool
  | [] => true
  | c :: _ => !(c.isDigit || c == '.' || c == 'e' || c == 'E')

/-- Behind blanks the first character decides. -/
theorem endsNumber_of_skipBlanks {t u : Text} {c : Char} (h : skipBlanks t = c :: u)
    (hc : endsNumber [c]) : endsNumber t := by
  cases t with
  | nil => rfl
  | cons d t =>
      cases hd : isJsonBlank d with
      | false =>
          rw [skipBlanks_cons_of_not hd] at h
          cases h
          exact hc
      | true =>
          rcases eq_of_isJsonBlank hd with rfl | rfl | rfl | rfl <;> rfl

theorem isDigit_of_mem_ofNat {n : Nat} {c : Char} (h : c ∈ Text.ofNat n) : c.isDigit :=
  Nat.isDigit_of_mem_toDigits (by decide) (by decide) h

/-- A number starts with a digit. -/
theorem exists_ofNat_eq_cons (n : Nat) : ∃ d ds, Text.ofNat n = d :: ds ∧ d.isDigit := by
  obtain ⟨d, ds, h⟩ := List.exists_cons_of_ne_nil (Nat.toDigits_ne_nil (n := n) (b := 10))
  refine ⟨d, ds, h, isDigit_of_mem_ofNat (n := n) ?_⟩
  rw [Text.ofNat, h]
  exact List.mem_cons_self

/-- Digits that start with a zero are that zero alone. -/
theorem eq_nil_of_ofNat_eq_zero_cons {n : Nat} {ds : Text} (h : Text.ofNat n = '0' :: ds) :
    ds = [] := by
  induction n using Nat.strong_induction_on generalizing ds with
  | _ n ih =>
      rw [Text.ofNat, Nat.toDigits_eq_if (by decide)] at h
      split at h
      · exact (List.cons.inj h).2.symm
      · next hn =>
          -- All digits but the last belong to a smaller number, which would be zero.
          obtain ⟨d, ds', hds, -⟩ := exists_ofNat_eq_cons (n / 10)
          rw [show Nat.toDigits 10 (n / 10) = d :: ds' from hds] at h
          obtain rfl : d = '0' := (List.cons.inj h).1
          obtain rfl : ds' = [] := ih (n / 10) (by omega) hds
          have hzero : n / 10 = 0 := by
            rw [← Nat.ofDigitChars_ten_toDigits (n := n / 10),
              show Nat.toDigits 10 (n / 10) = ['0'] from hds]
            rfl
          omega

/-! ### Digits -/

/-- At least one digit, and nothing else. -/
def IsDigits (t : Text) : Prop := t ≠ [] ∧ ∀ c ∈ t, c.isDigit = true

/-- Digits without a zero in front of others. -/
def IsWhole (t : Text) : Prop := IsDigits t ∧ (t = ['0'] ∨ t.head? ≠ some '0')

theorem isWhole_ofNat (n : Nat) : IsWhole (Text.ofNat n) := by
  obtain ⟨d, ds, hds, -⟩ := exists_ofNat_eq_cons n
  refine ⟨⟨by rw [hds]; exact List.cons_ne_nil d ds, fun _ hc => isDigit_of_mem_ofNat hc⟩, ?_⟩
  by_cases hd : d = '0'
  · subst hd
    exact .inl (by rw [hds, eq_nil_of_ofNat_eq_zero_cons hds])
  · refine .inr ?_
    rw [hds]
    exact fun h => hd (Option.some.inj h)

/-- Digits are read up to the first character that is none. -/
theorem digits_of_isDigits (atEnd : Error) {ds rest : Text} (h : IsDigits ds)
    (hrest : rest.head?.any Char.isDigit = false) :
    digits atEnd (ds ++ rest) = .ok (ds, rest) := by
  have htake : rest.takeWhile Char.isDigit = [] := by
    cases rest with
    | nil => rfl
    | cons c rest => exact List.takeWhile_cons_of_neg (by simpa using hrest)
  have hdrop : rest.dropWhile Char.isDigit = rest := by
    cases rest with
    | nil => rfl
    | cons c rest => exact List.dropWhile_cons_of_neg (by simpa using hrest)
  obtain ⟨hne, hdigits⟩ := h
  obtain ⟨d, ds, rfl⟩ := List.exists_cons_of_ne_nil hne
  rw [List.cons_append, digits, if_pos (hdigits d List.mem_cons_self), ← List.cons_append,
    List.takeWhile_append_of_pos hdigits, List.dropWhile_append_of_pos hdigits, htake, hdrop,
    List.append_nil]

theorem wholeDigits_of_isWhole (atEnd : Error) {ds rest : Text} (h : IsWhole ds)
    (hrest : rest.head?.any Char.isDigit = false) :
    wholeDigits atEnd (ds ++ rest) = .ok (ds, rest) := by
  rw [wholeDigits, digits_of_isDigits atEnd h.1 hrest]
  dsimp only [bind, Except.bind]
  split
  · rcases h.2 with hzero | hzero
    · cases hzero
    · exact absurd rfl hzero
  · rfl

theorem not_isDigit_of_endsNumber {rest : Text} (h : endsNumber rest) :
    rest.head?.any Char.isDigit = false := by
  cases rest with
  | nil => rfl
  | cons c rest =>
      simp only [endsNumber, Bool.not_or, Bool.and_eq_true, Bool.not_eq_true'] at h
      exact h.1.1.1

theorem le_ofDigitChars (ds : Text) (significand : Nat) :
    significand ≤ Nat.ofDigitChars 10 ds significand := by
  induction ds generalizing significand with
  | nil => exact le_rfl
  | cons d ds ih =>
      rw [Nat.ofDigitChars_cons]
      exact le_trans (by omega) (ih _)

/-- Digits whose value is below `2 ^ 64` are all taken. -/
theorem extend_eq {ds : Text} {significand : Nat} (taken : Nat)
    (h : Nat.ofDigitChars 10 ds significand < UInt64.size) :
    extend significand taken ds = (Nat.ofDigitChars 10 ds significand, taken + ds.length) := by
  induction ds generalizing significand taken with
  | nil => rfl
  | cons d ds ih =>
      rw [Nat.ofDigitChars_cons] at h ⊢
      rw [extend, if_pos (lt_of_le_of_lt (le_ofDigitChars ds _) h), ih _ h, List.length_cons,
        Nat.add_assoc, Nat.add_comm 1]

theorem fractionDigits_of_endsNumber (atEnd : Error) {rest : Text} (h : endsNumber rest) :
    fractionDigits atEnd rest = .ok ([], rest) := by
  unfold fractionDigits
  split
  · simp [endsNumber] at h
  · rfl

theorem exponentPart_of_endsNumber (atEnd : Error) {rest : Text} (h : endsNumber rest) :
    exponentPart atEnd rest = .ok (none, rest) := by
  cases rest with
  | nil => rfl
  | cons c rest =>
      simp only [endsNumber, Bool.not_or, Bool.and_eq_true, Bool.not_eq_true', beq_eq_false_iff_ne]
        at h
      exact if_neg (not_or.mpr ⟨h.1.2, h.2⟩)

/-- A number without a sign is read part by part. -/
theorem numeral_of_digit {atEnd : Error} {c : Char} {t u v rest ds fs : Text} {e : Option Int}
    (hc : c.isDigit = true) (hwhole : wholeDigits atEnd (c :: t) = .ok (ds, u))
    (hfraction : fractionDigits atEnd u = .ok (fs, v))
    (hexponent : exponentPart atEnd v = .ok (e, rest)) :
    numeral atEnd (c :: t) = .ok (⟨false, ds, fs, e⟩, rest) := by
  have hminus : c ≠ '-' := by rintro rfl; exact nomatch hc
  unfold numeral
  split
  next negative t hcut =>
      split at hcut
      · next heq => exact absurd (List.cons.inj heq).1 hminus
      · obtain ⟨rfl, rfl⟩ := Prod.mk.inj hcut
        dsimp only [bind, Except.bind]
        rw [hwhole]
        dsimp only
        rw [hfraction]
        dsimp only
        rw [hexponent]
        rfl

/-- A number behind its sign is read part by part. -/
theorem numeral_of_minus {atEnd : Error} {t u v rest ds fs : Text} {e : Option Int}
    (hwhole : wholeDigits atEnd t = .ok (ds, u)) (hfraction : fractionDigits atEnd u = .ok (fs, v))
    (hexponent : exponentPart atEnd v = .ok (e, rest)) :
    numeral atEnd ('-' :: t) = .ok (⟨true, ds, fs, e⟩, rest) := by
  simp only [numeral, bind, Except.bind, hwhole, hfraction, hexponent]
  rfl

/-- Digits without a sign are the whole of a number. -/
theorem numeral_ofNat (atEnd : Error) (n : Nat) {rest : Text} (h : endsNumber rest) :
    numeral atEnd (Text.ofNat n ++ rest) = .ok (⟨false, Text.ofNat n, [], none⟩, rest) := by
  obtain ⟨d, ds, hds, hd⟩ := exists_ofNat_eq_cons n
  have hwhole := wholeDigits_of_isWhole atEnd (isWhole_ofNat n) (not_isDigit_of_endsNumber h)
  rw [hds, List.cons_append] at hwhole ⊢
  exact numeral_of_digit hd hwhole (fractionDigits_of_endsNumber atEnd h)
    (exponentPart_of_endsNumber atEnd h)

/-- A number below `2 ^ 64` is read from its digits. -/
theorem number_ofNat (n : UInt64) {rest : Text} (h : endsNumber rest) :
    number (Text.ofNat n.toNat ++ rest) = .ok (.natural n, rest) := by
  have hn : Nat.ofDigitChars 10 (Text.ofNat n.toNat) 0 = n.toNat := Nat.ofDigitChars_ten_toDigits
  have hextend : extend 0 0 (Text.ofNat n.toNat) = (n.toNat, (Text.ofNat n.toNat).length) := by
    rw [extend_eq 0 (by rw [hn]; exact n.toNat_lt), hn, Nat.zero_add]
  have hvalue : Numeral.value ⟨false, Text.ofNat n.toNat, [], none⟩ = .ok (.natural n) := by
    rw [Numeral.value, hextend]
    simp only [List.isEmpty_nil, Option.isNone_none, Bool.and_true, beq_self_eq_true, if_true,
      Bool.not_false, UInt64.ofNat_toNat]
    rfl
  rw [number, numeral_ofNat _ _ h]
  dsimp only [bind, Except.bind]
  rw [hvalue]
  rfl

/-! ## Numbers of any form -/

/-- A point and digits, or nothing. -/
inductive IsFraction : Text → Prop where
  | none : IsFraction []
  | point {ds : Text} : IsDigits ds → IsFraction ('.' :: ds)

/-- A mark, a sign or none, and digits; or nothing. -/
inductive IsExponent : Text → Prop where
  | none : IsExponent []
  | mark {e : Char} {sign ds : Text} : e = 'e' ∨ e = 'E' → sign ∈ [[], ['+'], ['-']] →
      IsDigits ds → IsExponent (e :: (sign ++ ds))

/-- A well-formed number, whatever its size. -/
inductive IsNumber : Text → Prop where
  | mk {sign whole fraction exponent : Text} : sign ∈ [[], ['-']] → IsWhole whole →
      IsFraction fraction → IsExponent exponent →
      IsNumber (sign ++ (whole ++ (fraction ++ exponent)))

/-- The first character of a number. -/
theorem IsNumber.head {n : Text} (h : IsNumber n) : ∃ c u, n = c :: u ∧ (c = '-' ∨ c.isDigit) := by
  obtain ⟨hsign, ⟨⟨hne, hdigits⟩, -⟩, -, -⟩ := h
  simp only [List.mem_cons, List.not_mem_nil, or_false] at hsign
  rcases hsign with rfl | rfl
  · obtain ⟨d, ds, rfl⟩ := List.exists_cons_of_ne_nil hne
    exact ⟨d, _, rfl, .inr (hdigits d List.mem_cons_self)⟩
  · exact ⟨'-', _, rfl, .inl rfl⟩

/-- Neither a digit nor a point follows the whole and broken parts of a number. -/
theorem IsExponent.head {x rest : Text} (h : IsExponent x) (hrest : endsNumber rest) :
    (x ++ rest).head?.any Char.isDigit = false ∧ (x ++ rest).head?.any (· == '.') = false := by
  cases h with
  | none =>
      refine ⟨not_isDigit_of_endsNumber hrest, ?_⟩
      cases rest with
      | nil => rfl
      | cons c rest =>
          simp only [endsNumber, Bool.not_or, Bool.and_eq_true, Bool.not_eq_true'] at hrest
          exact hrest.1.1.2
  | mark he _ _ => rcases he with rfl | rfl <;> exact ⟨rfl, rfl⟩

theorem exponentPart_of_isExponent (atEnd : Error) {x rest : Text} (h : IsExponent x)
    (hrest : endsNumber rest) : ∃ e, exponentPart atEnd (x ++ rest) = .ok (e, rest) := by
  cases h with
  | none => exact ⟨Option.none, exponentPart_of_endsNumber atEnd hrest⟩
  | @mark e sign ds he hsign hds =>
      have hread := digits_of_isDigits atEnd hds (not_isDigit_of_endsNumber hrest)
      simp only [List.mem_cons, List.not_mem_nil, or_false] at hsign
      rcases hsign with rfl | rfl | rfl
      · -- a digit is no sign
        obtain ⟨d, ds', rfl⟩ := List.exists_cons_of_ne_nil hds.1
        have hd : d.isDigit = true := hds.2 d List.mem_cons_self
        have hminus : d ≠ '-' := by rintro rfl; exact nomatch hd
        have hplus : d ≠ '+' := by rintro rfl; exact nomatch hd
        unfold exponentPart
        dsimp only [List.cons_append, List.nil_append] at hread ⊢
        rw [if_pos he]
        split
        · next heq => exact absurd (List.cons.inj heq).1 hminus
        · next heq => exact absurd (List.cons.inj heq).1 hplus
        · rw [hread]
          exact ⟨_, rfl⟩
      · unfold exponentPart
        dsimp only [List.cons_append, List.nil_append]
        rw [if_pos he]
        simp only [hread]
        exact ⟨_, rfl⟩
      · unfold exponentPart
        dsimp only [List.cons_append, List.nil_append]
        rw [if_pos he]
        simp only [hread]
        exact ⟨_, rfl⟩

theorem fractionDigits_of_isFraction (atEnd : Error) {f rest : Text} (h : IsFraction f)
    (hdigit : rest.head?.any Char.isDigit = false) (hpoint : rest.head?.any (· == '.') = false) :
    ∃ ds, fractionDigits atEnd (f ++ rest) = .ok (ds, rest) := by
  cases h with
  | none =>
      refine ⟨[], ?_⟩
      unfold fractionDigits
      rw [List.nil_append]
      split
      · exact nomatch hpoint
      · rfl
  | point hds => exact ⟨_, digits_of_isDigits atEnd hds hdigit⟩

/-- A well-formed number is read to its end. -/
theorem numeral_of_isNumber (atEnd : Error) {n rest : Text} (h : IsNumber n)
    (hrest : endsNumber rest) : ∃ m, numeral atEnd (n ++ rest) = .ok (m, rest) := by
  cases h with
  | @mk sign whole fraction exponent hsign hwhole hfraction hexponent =>
      obtain ⟨hdigit, hpoint⟩ := hexponent.head hrest
      have hbehind : (fraction ++ (exponent ++ rest)).head?.any Char.isDigit = false := by
        cases hfraction with
        | none => exact hdigit
        | point _ => rfl
      have hread := wholeDigits_of_isWhole atEnd hwhole hbehind
      obtain ⟨fs, hfs⟩ := fractionDigits_of_isFraction atEnd hfraction hdigit hpoint
      obtain ⟨e, he⟩ := exponentPart_of_isExponent atEnd hexponent hrest
      simp only [List.mem_cons, List.not_mem_nil, or_false] at hsign
      simp only [List.append_assoc]
      rcases hsign with rfl | rfl
      · obtain ⟨d, ds, rfl⟩ := List.exists_cons_of_ne_nil hwhole.1.1
        exact ⟨_, numeral_of_digit (hwhole.1.2 d List.mem_cons_self) hread hfs he⟩
      · exact ⟨_, numeral_of_minus hread hfs he⟩

theorem skipNumber_of_isNumber {n rest : Text} (h : IsNumber n) (hrest : endsNumber rest) :
    skipNumber (n ++ rest) = .ok rest := by
  obtain ⟨m, hm⟩ := numeral_of_isNumber (.malformed .invalidNumber) h hrest
  rw [skipNumber, hm]
  rfl

end OrderOfGrowth.Json
