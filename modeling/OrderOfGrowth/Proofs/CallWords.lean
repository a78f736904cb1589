import Mathlib.Data.List.DropRight
import Mathlib.Data.List.TakeWhile
import OrderOfGrowth.Line.Calls
import OrderOfGrowth.Proofs.Names

/-! # Call words — calls read backwards from their parentheses

    Calls are looked for from left to right: at every word boundary a name, blanks and a parenthesis
    are tried, and the search goes on behind what was found.  The same names come out if one goes to
    each parenthesis and reads backwards over blanks and then over word characters
    (`callsFrom_eq`).

    * The bridge is `Text.lastWord_cons`, which says what a character in front does to the word
      read from the end.
    * Up to the next parenthesis the search finds that parenthesis' word, or nothing at all
      (`callsFrom_append_paren`).  A word that has been entered is spoiled: a search that starts
      inside it is no longer at a boundary (`callBefore`).
    * A parenthesis ends words and blanks, so no word reaches back over one, and the pieces of the
      line between its parentheses can be read one by one (`wordsBefore_append_paren`). -/

namespace OrderOfGrowth

/-! ## Character classes -/

/-- No blank stands in a word. -/
theorem not_isWordChar_of_isBlank {c : Char} (h : isBlank c = true) : isWordChar c = false := by
  have hcodes : ∀ n ∈ blankRanges.codes, wordRanges.has n = false := by
    decide +kernel
  exact hcodes c.toNat (CodeRanges.mem_codes_of_has h)

theorem not_isBlank_of_isWordChar {c : Char} (h : isWordChar c = true) : isBlank c = false := by
  rw [Bool.eq_false_iff]
  intro hblank
  rw [not_isWordChar_of_isBlank hblank] at h
  exact nomatch h

/-- The characters of calls are ASCII. -/
theorem toNat_lt_of_isCallChar {c : Char} (h : isCallChar c = true) : c.toNat < 128 := by
  have hrange : ∀ high : UInt32, c.val ≤ high → high.toNat < 128 → c.toNat < 128 := by
    intro high hc hhigh
    exact Nat.lt_of_le_of_lt (UInt32.le_iff_toNat_le.mp hc) hhigh
  have hclasses : (c.isUpper || c.isLower || c.isDigit || c == '_') = true := h
  rw [Bool.or_eq_true, Bool.or_eq_true, Bool.or_eq_true, beq_iff_eq] at hclasses
  rcases hclasses with ((hupper | hlower) | hdigit) | rfl
  · exact hrange 'Z'.val (of_decide_eq_true hupper).2 (by decide)
  · exact hrange 'z'.val (of_decide_eq_true (Bool.and_eq_true_iff.mp hlower).2) (by decide)
  · exact hrange '9'.val (of_decide_eq_true (Bool.and_eq_true_iff.mp hdigit).2) (by decide)
  · decide

/-- The characters of calls are word characters. -/
theorem isWordChar_of_isCallChar {c : Char} (h : isCallChar c = true) : isWordChar c = true := by
  have hcodes : ∀ n < 128, isCallChar (Char.ofNat n) = true → wordRanges.has n = true := by
    decide +kernel
  refine hcodes c.toNat (toNat_lt_of_isCallChar h) ?_
  rwa [Char.ofNat_toNat]

/-- What can start a call is what can stand in one, digits apart. -/
theorem isCallStart_eq (c : Char) : isCallStart c = (isCallChar c && !c.isDigit) := by
  by_cases hlt : c.toNat < 128
  · have hcodes : ∀ n < 128, isCallStart (Char.ofNat n)
        = (isCallChar (Char.ofNat n) && !(Char.ofNat n).isDigit) := by
      decide +kernel
    have hc := hcodes c.toNat hlt
    rwa [Char.ofNat_toNat] at hc
  · have hchar : isCallChar c = false := by
      rw [Bool.eq_false_iff]
      exact fun h => hlt (toNat_lt_of_isCallChar h)
    rw [hchar, Bool.false_and, Bool.eq_false_iff]
    intro hstart
    refine hlt (toNat_lt_of_isCallChar ?_)
    show (c.isAlpha || c.isDigit || c == '_') = true
    rw [isCallStart, Bool.or_eq_true] at hstart
    rcases hstart with halpha | hunderscore
    · rw [halpha]
      rfl
    · rw [hunderscore, Bool.or_true]

/-! ## The last word of a text -/

namespace Text

/-- The last word of a text: the longest run of word characters that ends where the blanks at the
    end of the text begin.  It is empty if another character stands there. -/
def lastWord (t : Text) : Text := (t.rdropWhile isBlank).rtakeWhile isWordChar

theorem lastWord_infix (t : Text) : lastWord t <:+: t :=
  (List.rtakeWhile_suffix _ _).isInfix.trans (List.rdropWhile_prefix _ _).isInfix

/-- A run of word characters with nothing but blanks behind it is the last word. -/
theorem lastWord_append_blanks {word blanks : Text} (hword : ∀ c ∈ word, isWordChar c = true)
    (hblanks : ∀ c ∈ blanks, isBlank c = true) : lastWord (word ++ blanks) = word := by
  have hdrop : (word ++ blanks).rdropWhile isBlank = word := by
    rw [List.rdropWhile, List.reverse_append,
      List.dropWhile_append_of_pos fun c hc => hblanks c (List.mem_reverse.mp hc)]
    rw [show (word.reverse.dropWhile isBlank).reverse = word.rdropWhile isBlank from rfl]
    refine List.rdropWhile_eq_self_iff.mpr fun hne => ?_
    rw [not_isBlank_of_isWordChar (hword _ (List.getLast_mem hne))]
    exact Bool.false_ne_true
  rw [lastWord, hdrop]
  exact List.rtakeWhile_eq_self_iff.mpr hword

theorem rdropWhile_cons (p : Char → Bool) (c : Char) (t : Text) :
    (c :: t).rdropWhile p
      = if t.rdropWhile p = [] then [c].rdropWhile p else c :: t.rdropWhile p := by
  rw [List.rdropWhile, List.reverse_cons, List.dropWhile_append]
  simp only [List.isEmpty_iff, List.rdropWhile, List.reverse_eq_nil_iff]
  split
  · rfl
  · rw [List.reverse_append]
    rfl

/-- A character in front is not taken from the end, unless all others are and it can be. -/
theorem rtakeWhile_cons_of_not {p : Char → Bool} {c : Char} {t : Text}
    (h : ¬ (p c = true ∧ ∀ d ∈ t, p d = true)) : (c :: t).rtakeWhile p = t.rtakeWhile p := by
  rw [List.rtakeWhile, List.reverse_cons, List.takeWhile_append]
  split
  · next hall =>
      have hself : t.reverse.takeWhile p = t.reverse :=
        (List.takeWhile_prefix p).eq_of_length hall
      have hnot : p c = false := by
        rw [Bool.eq_false_iff]
        intro hc
        refine h ⟨hc, fun d hd => ?_⟩
        exact List.takeWhile_eq_self_iff.mp hself d (List.mem_reverse.mpr hd)
      rw [List.takeWhile_cons_of_neg (by rw [hnot]; exact Bool.false_ne_true), List.append_nil,
        List.rtakeWhile, hself]
  · rfl

/-- A character in front joins the last word if nothing but word characters and then blanks comes
    behind it, and otherwise makes no difference. -/
theorem lastWord_cons (c : Char) (t : Text) :
    lastWord (c :: t) =
      if isWordChar c && (t.dropWhile isWordChar).all isBlank then c :: t.takeWhile isWordChar
      else lastWord t := by
  simp only [Bool.and_eq_true, List.all_eq_true]
  split
  · next h =>
      have hsplit : c :: t = c :: t.takeWhile isWordChar ++ t.dropWhile isWordChar := by
        rw [List.cons_append, List.takeWhile_append_dropWhile]
      rw [hsplit]
      refine lastWord_append_blanks (fun d hd => ?_) h.2
      rcases List.mem_cons.mp hd with rfl | hd
      · exact h.1
      · exact List.mem_takeWhile_imp hd
  · next h =>
      rw [lastWord, lastWord, rdropWhile_cons]
      split
      · next hnil =>
          -- only blanks come behind the character, so it is no word character itself
          have hblanks : ∀ d ∈ t, isBlank d = true := List.rdropWhile_eq_nil_iff.mp hnil
          have hc : ¬ isWordChar c = true := by
            intro hc
            exact h ⟨hc, fun d hd => hblanks d ((List.dropWhile_suffix _).subset hd)⟩
          rw [hnil, List.rdropWhile_singleton]
          split
          · rfl
          · exact List.rtakeWhile_concat_neg _ [] c hc
      · -- the word before the blanks is not made of word characters alone, or the character is none
        refine rtakeWhile_cons_of_not fun hall => h ⟨hall.1, fun d hd => ?_⟩
        rw [← List.rdropWhile_append_rtakeWhile (p := isBlank) (l := t),
          List.dropWhile_append_of_pos hall.2] at hd
        exact List.mem_rtakeWhile_imp ((List.dropWhile_suffix _).subset hd)

/-- A word does not reach back over another character, unless only blanks follow that are read over
    together with it. -/
theorem lastWord_append_cons {c : Char} (hword : isWordChar c = false) {t : Text}
    (hsolid : ∃ d ∈ c :: t, isBlank d = false) (front : Text) :
    lastWord (front ++ c :: t) = lastWord t := by
  have hstop : ∀ u : Text, (u ++ c :: t).dropWhile isWordChar
      = u.dropWhile isWordChar ++ c :: t := by
    intro u
    rw [List.dropWhile_append]
    split
    · next hnil =>
        rw [List.isEmpty_iff.mp hnil, List.nil_append,
          List.dropWhile_cons_of_neg (by rw [hword]; exact Bool.false_ne_true)]
    · rfl
  induction front with
  | nil =>
      rw [List.nil_append, lastWord_cons, hword, Bool.false_and]
      rfl
  | cons e front ih =>
      rw [List.cons_append, lastWord_cons, if_neg, ih]
      rw [Bool.and_eq_true, List.all_eq_true]
      rintro ⟨-, hblanks⟩
      obtain ⟨d, hd, hsolid⟩ := hsolid
      rw [hblanks d (hstop front ▸ List.mem_append_right _ hd)] at hsolid
      exact nomatch hsolid

end Text

/-! ## One call -/

/-- The name of a call: characters of calls, the first of which is no digit. -/
def isCallName : Text → Bool
  | [] => false
  | c :: cs => (c :: cs).all isCallChar && !c.isDigit

theorem isCallChar_of_mem {name : Text} (h : isCallName name = true) {c : Char} (hc : c ∈ name) :
    isCallChar c = true := by
  match name, h with
  | d :: ds, h =>
      rw [isCallName, Bool.and_eq_true] at h
      exact List.all_eq_true.mp h.1 c hc

/-- A call that starts here is a name, blanks and a parenthesis, and there is no other way to read
    it. -/
theorem callHere?_eq_some_iff {t name : Text} {skip : Nat} :
    callHere? t = some (name, skip) ↔
      ∃ blanks back, t = name ++ (blanks ++ '(' :: back) ∧ isCallName name = true ∧
        (∀ c ∈ blanks, isBlank c = true) ∧ skip = name.length + blanks.length := by
  constructor
  · intro h
    cases t with
    | nil => cases h
    | cons c cs =>
        rw [callHere?, Option.ite_none_right_eq_some] at h
        obtain ⟨hstart, h⟩ := h
        dsimp only at h
        split at h
        · next back hback =>
            obtain ⟨rfl, rfl⟩ := Prod.mk.inj (Option.some.inj h)
            refine ⟨(cs.dropWhile isCallChar).takeWhile isBlank, back, ?_, ?_, ?_, ?_⟩
            · rw [← hback, List.takeWhile_append_dropWhile, List.cons_append,
                List.takeWhile_append_dropWhile]
            · rw [isCallStart_eq, Bool.and_eq_true] at hstart
              rw [isCallName, List.all_cons, hstart.1, hstart.2, Bool.true_and, Bool.and_true,
                List.all_eq_true]
              exact fun d hd => List.mem_takeWhile_imp hd
            · exact fun d hd => List.mem_takeWhile_imp hd
            · rw [List.length_cons]
              omega
        · cases h
  · rintro ⟨blanks, back, rfl, hname, hblanks, rfl⟩
    cases name with
    | nil => cases hname
    | cons c tail =>
        rw [isCallName, List.all_cons, Bool.and_eq_true, Bool.and_eq_true, List.all_eq_true] at hname
        obtain ⟨⟨hc, htail⟩, hdigit⟩ := hname
        -- neither a blank nor the parenthesis belongs to the name
        have hstop : (blanks ++ '(' :: back).takeWhile isCallChar = [] ∧
            (blanks ++ '(' :: back).dropWhile isCallChar = blanks ++ '(' :: back := by
          cases blanks with
          | nil => exact ⟨rfl, rfl⟩
          | cons b bs =>
              have hb : ¬ isCallChar b = true := by
                intro hb
                have hword := not_isWordChar_of_isBlank (hblanks b List.mem_cons_self)
                rw [isWordChar_of_isCallChar hb] at hword
                cases hword
              exact ⟨List.takeWhile_cons_of_neg hb, List.dropWhile_cons_of_neg hb⟩
        have hstart : isCallStart c = true := by
          rw [isCallStart_eq, hc, hdigit]
          rfl
        rw [List.cons_append, callHere?, if_pos hstart, List.takeWhile_append_of_pos htail,
          List.dropWhile_append_of_pos htail, hstop.1, hstop.2, List.append_nil]
        dsimp only
        rw [List.dropWhile_append_of_pos hblanks, List.takeWhile_append_of_pos hblanks,
          List.dropWhile_cons_of_neg (by decide), List.takeWhile_cons_of_neg (by decide)]
        simp only [List.append_nil, List.length_cons, Option.some.injEq, Prod.mk.injEq, true_and]
        omega

/-- No parenthesis belongs to a name or to the blanks behind it. -/
theorem paren_not_mem {name blanks : Text} (hname : isCallName name = true)
    (hblanks : ∀ c ∈ blanks, isBlank c = true) : '(' ∉ name ++ blanks := by
  intro hmem
  rcases List.mem_append.mp hmem with hmem | hmem
  · exact absurd (isCallChar_of_mem hname hmem) (by decide)
  · exact absurd (hblanks _ hmem) (by decide)

/-- Characters that belong to a call are passed, and a parenthesis ends what can be a word. -/
theorem callsFrom_skip (inWord : Bool) (found : List Text) (passed rest : Text) :
    callsFrom (passed.length + 1) inWord found (passed ++ '(' :: rest)
      = callsFrom 0 false found rest := by
  induction passed generalizing inWord with
  | nil => rfl
  | cons c cs ih => exact ih (isWordChar c)

/-! ## From one parenthesis to the next -/

/-- The call that is found on the way to a parenthesis, if there is one.  A word that the search has
    entered already, without finding a call, is no call any more. -/
def callBefore (inWord : Bool) (t : Text) : List Text :=
  if inWord && (t.dropWhile isWordChar).all isBlank then [] else [t.lastWord].filter isCallName

theorem callBefore_false (t : Text) : callBefore false t = [t.lastWord].filter isCallName := rfl

theorem callBefore_nil (inWord : Bool) : callBefore inWord [] = [] := by
  cases inWord <;> rfl

/-- Inside a word, the next character decides whether the search is inside one still. -/
theorem callBefore_true_cons (c : Char) (t : Text) :
    callBefore true (c :: t) = callBefore (isWordChar c) t := by
  by_cases hc : isWordChar c = true
  · rw [callBefore, callBefore, List.dropWhile_cons_of_pos hc, Text.lastWord_cons, hc]
    split
    · rfl
    · rfl
  · have hout : isWordChar c = false := Bool.not_eq_true _ ▸ hc
    have hsame : Text.lastWord (c :: t) = t.lastWord := by
      rw [Text.lastWord_cons, hout, Bool.false_and]
      rfl
    rw [callBefore, List.dropWhile_cons_of_neg hc, hsame, hout, callBefore_false, Bool.true_and]
    split
    · next h =>
        have hblanks : ∀ d ∈ t, isBlank d = true := by
          intro d hd
          exact List.all_eq_true.mp h d (List.mem_cons_of_mem c hd)
        have hnone : Text.lastWord ([] ++ t) = [] := Text.lastWord_append_blanks nofun hblanks
        rw [show t.lastWord = [] from hnone]
        rfl
    · rfl

/-- Outside of words, a character that starts no call is passed. -/
theorem callBefore_false_cons {c : Char} {t : Text}
    (h : (∀ d ∈ t.dropWhile isWordChar, isBlank d = true) →
      isCallName (c :: t.takeWhile isWordChar) = false) :
    callBefore false (c :: t) = callBefore (isWordChar c) t := by
  rw [callBefore_false, Text.lastWord_cons, callBefore]
  split
  · next hword =>
      rw [Bool.and_eq_true, List.all_eq_true] at hword
      rw [List.filter_singleton, h hword.2]
      rfl
  · rfl

/-- **Up to the next parenthesis** the search finds the word in front of it, if that is the name of
    a call and has not been entered yet, and nothing else. -/
theorem callsFrom_append_paren (inWord : Bool) (found : List Text) {t : Text} (h : '(' ∉ t)
    (rest : Text) :
    callsFrom 0 inWord found (t ++ '(' :: rest)
      = callsFrom 0 false (callBefore inWord t ++ found) rest := by
  induction t generalizing inWord with
  | nil =>
      rw [callBefore_nil]
      cases inWord <;> rfl
  | cons c t ih =>
      have ht : '(' ∉ t := by
        intro hmem
        exact h (List.mem_cons_of_mem c hmem)
      cases inWord with
      | true =>
          rw [List.cons_append, callsFrom, ih (isWordChar c) ht, callBefore_true_cons]
      | false =>
          rw [List.cons_append, callsFrom]
          split
          · next name skip hcall =>
              -- the call ends at this very parenthesis, since there is none before it
              obtain ⟨blanks, back, heq, hname, hblanks, rfl⟩ := callHere?_eq_some_iff.mp hcall
              rw [← List.append_assoc] at heq
              obtain ⟨hsame, rfl⟩ := Text.append_cons_inj h (paren_not_mem hname hblanks) heq
              have hskip : name.length + blanks.length = t.length + 1 := by
                rw [← List.length_append, ← hsame, List.length_cons]
              have hlast : Text.lastWord (c :: t) = name := by
                rw [hsame]
                refine Text.lastWord_append_blanks (fun d hd => ?_) hblanks
                exact isWordChar_of_isCallChar (isCallChar_of_mem hname hd)
              rw [hskip, callsFrom_skip, callBefore_false, hlast, List.filter_singleton, hname]
              rfl
          · next hcall =>
              rw [ih (isWordChar c) ht, callBefore_false_cons]
              intro hblanks
              rw [Bool.eq_false_iff]
              intro hname
              have hsome : callHere? (c :: (t ++ '(' :: rest)) = some (_, _) :=
                callHere?_eq_some_iff.mpr ⟨t.dropWhile isWordChar, rest, by
                  rw [List.cons_append, ← List.append_assoc, List.takeWhile_append_dropWhile],
                  hname, hblanks, rfl⟩
              rw [hsome] at hcall
              exact nomatch hcall

/-- Behind the last parenthesis, no call is found. -/
theorem callsFrom_of_not_mem (inWord : Bool) (found : List Text) {t : Text} (h : '(' ∉ t) :
    callsFrom 0 inWord found t = found.reverse := by
  induction t generalizing inWord with
  | nil => cases inWord <;> rfl
  | cons c t ih =>
      have ht : '(' ∉ t := by
        intro hmem
        exact h (List.mem_cons_of_mem c hmem)
      cases inWord with
      | true => exact ih (isWordChar c) ht
      | false =>
          rw [callsFrom]
          split
          · next name skip hcall =>
              obtain ⟨blanks, back, heq, -, -, -⟩ := callHere?_eq_some_iff.mp hcall
              rw [heq] at h
              exact absurd (List.mem_append_right _ (List.mem_append_right _ List.mem_cons_self)) h
          · exact ih (isWordChar c) ht

/-! ## All calls -/

/-- The words in front of the parentheses of a line, from left to right.  The word is empty where
    something else stands in front. -/
def wordsBefore (line : Text) : List Text :=
  (line.idxsOf '(').map fun i => Text.lastWord (line.take i)

theorem wordsBefore_of_not_mem {t : Text} (h : '(' ∉ t) : wordsBefore t = [] := by
  rw [wordsBefore, List.map_eq_nil_iff, List.idxsOf_eq_nil_iff]
  intro c hc
  rw [beq_eq_false_iff_ne]
  rintro rfl
  exact h hc

/-- The first parenthesis has the word before it, and the others have theirs behind it. -/
theorem wordsBefore_append_paren {t : Text} (h : '(' ∉ t) (rest : Text) :
    wordsBefore (t ++ '(' :: rest) = t.lastWord :: wordsBefore rest := by
  have hnone : t.idxsOf '(' = [] := List.map_eq_nil_iff.mp (wordsBefore_of_not_mem h)
  have hplaces : (t ++ '(' :: rest).idxsOf '('
      = t.length :: (rest.idxsOf '(').map (· + (t.length + 1)) := by
    rw [List.idxsOf_append, hnone, List.nil_append, List.idxsOf_cons, if_pos (by decide),
      List.idxsOf_start, Nat.zero_add]
  have hbehind : ∀ i, Text.lastWord ((t ++ '(' :: rest).take (i + (t.length + 1)))
      = Text.lastWord (rest.take i) := by
    intro i
    rw [show i + (t.length + 1) = t.length + (i + 1) by omega, List.take_length_add_append,
      List.take_succ_cons,
      Text.lastWord_append_cons (by decide +kernel) ⟨'(', List.mem_cons_self, by decide⟩]
  rw [wordsBefore, hplaces, List.map_cons, List.take_left, List.map_map]
  simp only [Function.comp_def, hbehind]
  rfl

/-- **Calls can be read backwards.**  The search from left to right finds the words in front of the
    parentheses, as far as these are names of calls. -/
theorem callsFrom_eq (found : List Text) (line : Text) :
    callsFrom 0 false found line = found.reverse ++ (wordsBefore line).filter isCallName := by
  induction line using Text.pieceInduction '(' generalizing found with
  | last piece hpiece =>
      rw [callsFrom_of_not_mem false found hpiece, wordsBefore_of_not_mem hpiece]
      exact (List.append_nil _).symm
  | more piece rest hpiece ih =>
      rw [callsFrom_append_paren false found hpiece, ih, wordsBefore_append_paren hpiece,
        callBefore_false, List.reverse_append, ← List.filter_reverse, List.reverse_singleton,
        List.append_assoc, ← List.filter_append]
      rfl

theorem mem_callNames_iff {declared : Option Text} {line name : Text} :
    name ∈ callNames declared line ↔
      name ∈ wordsBefore line ∧ isCallName name = true ∧ name ∉ nonCallWords ∧
        some name ≠ declared := by
  rw [callNames, callsFrom_eq, List.reverse_nil, List.nil_append]
  simp only [List.mem_filter, Bool.not_eq_true', List.contains_eq_mem, decide_eq_false_iff_not,
    bne_iff_ne, and_assoc]

/-- **The calls of a line, parenthesis by parenthesis.**  For every line and every name that it may
    declare, the calls are what is left of the words in front of its parentheses, from left to
    right, when those are dropped that are empty, have a character other than an ASCII letter, a
    digit or an underscore, start with a digit, are never calls, or are the declared name. -/
theorem callNames_eq_wordsBefore (declared : Option Text) (line : Text) :
    callNames declared line = (wordsBefore line).filter fun word =>
      isCallName word && !nonCallWords.contains word && some word != declared := by
  rw [callNames, callsFrom_eq, List.reverse_nil, List.nil_append, List.filter_filter,
    List.filter_filter]
  refine List.filter_congr fun word _ => ?_
  rw [Bool.and_comm, Bool.and_comm (some word != declared), Bool.and_assoc]

end OrderOfGrowth
