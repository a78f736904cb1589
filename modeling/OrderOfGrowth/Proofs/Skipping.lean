import OrderOfGrowth.Json.Reader
import OrderOfGrowth.Proofs.Scanning

/-! # Skipping — a value that nobody asked for is passed over to its end

    `WellFormed .value t rest` is the grammar of JSON: `t` starts with a value of any kind, nested
    as deep as it likes, and `rest` follows it.  Strings are well formed even if they stand for no
    text, as a lone surrogate does, and numbers even if no type holds them.

    The pass keeps its open brackets on a stack, and while it is inside a value it never looks at
    those around it: `Passes` is a run under any such stack, step lemmas are its moves, and
    `passes_of_wellFormed` puts them together by induction on the grammar.  Every move takes a
    character at least, so the fuel suffices (`skipValue_of_wellFormed`). -/

namespace OrderOfGrowth.Json

/-! ## The pass -/

/-- Some moves of the pass, whatever fuel is left behind them. -/
def Passes (n : Nat) (p : Place) (stack : List Bracket) (t : Text) (p' : Place)
    (stack' : List Bracket) (t' : Text) : Prop :=
  ∀ fuel, skipFrom (fuel + n) p stack t = skipFrom fuel p' stack' t'

theorem Passes.trans {n n' : Nat} {p p' p'' : Place} {s s' s'' : List Bracket} {t t' t'' : Text}
    (h : Passes n p s t p' s' t') (h' : Passes n' p' s' t' p'' s'' t'') :
    Passes (n' + n) p s t p'' s'' t'' := by
  intro fuel
  rw [← Nat.add_assoc, h, h']

/-- Blanks in front of a value or a key do not matter. -/
theorem skipFrom_skipBlanks (fuel : Nat) {p : Place} (hp : p ≠ .afterValue)
    (stack : List Bracket) (t : Text) :
    skipFrom fuel p stack (skipBlanks t) = skipFrom fuel p stack t := by
  cases fuel with
  | zero => rfl
  | succ fuel =>
      cases p with
      | value => rw [skipFrom, skipFrom, skipBlanks_skipBlanks]
      | key => rw [skipFrom, skipFrom, skipBlanks_skipBlanks]
      | afterValue => exact absurd rfl hp

/-! ## Strings -/

/-- The pieces of a string, whatever they stand for. -/
inductive IsStringPiece : Text → Prop where
  | plain {c : Char} : isPlain c = true → IsStringPiece [c]
  | short {e c : Char} : (e, c) ∈ shortEscapes → IsStringPiece ['\\', e]
  | code {n : Nat} {u : Text} : UnitEscape n u → IsStringPiece u

/-- A string from behind its opening quote, with what follows the closing one. -/
def IsString (t rest : Text) : Prop :=
  ∃ us : List Text, (∀ u ∈ us, IsStringPiece u) ∧ t = us.flatten ++ '"' :: rest

theorem IsString.length_lt {t rest : Text} (h : IsString t rest) : rest.length < t.length := by
  obtain ⟨us, -, rfl⟩ := h
  rw [List.length_append, List.length_cons]
  omega

theorem skipString_backslash {t after : Text} (h : skipEscaped t = .ok after) :
    skipString ('\\' :: t) = skipString after := by
  rw [skipString, if_neg (by decide), if_pos rfl]
  split
  · next hok => cases h.symm.trans hok; rfl
  · next herror => cases h.symm.trans herror

/-- A piece of a string is passed over in one go. -/
theorem skipString_of_isStringPiece {u : Text} (h : IsStringPiece u) (rest : Text) :
    skipString (u ++ rest) = skipString rest := by
  cases h with
  | plain hplain =>
      simp only [isPlain, Bool.and_eq_true, bne_iff_ne, decide_eq_true_eq] at hplain
      obtain ⟨⟨hquote, hbackslash⟩, hcontrol⟩ := hplain
      rw [List.singleton_append, skipString, if_neg hquote, if_neg hbackslash,
        if_neg (Nat.not_lt.mpr hcontrol)]
  | short hescape =>
      refine skipString_backslash ?_
      show skipEscaped (_ :: rest) = _
      rw [skipEscaped, escape?_of_mem hescape]
      rfl
  | code hunit =>
      obtain ⟨ds, rfl, hds⟩ := hexDigits_of_unitEscape hunit
      refine skipString_backslash ?_
      show skipEscaped ('u' :: (ds ++ rest)) = _
      rw [skipEscaped, if_neg (by decide), if_pos rfl, hds]

theorem skipString_of_isString {t rest : Text} (h : IsString t rest) :
    skipString t = .ok rest := by
  obtain ⟨us, hus, rfl⟩ := h
  induction us with
  | nil => rw [List.flatten_nil, List.nil_append, skipString, if_pos rfl]
  | cons u us ih =>
      rw [List.flatten_cons, List.append_assoc,
        skipString_of_isStringPiece (hus u List.mem_cons_self)]
      exact ih fun v hv => hus v (List.mem_cons_of_mem u hv)

/-! ## The grammar -/

/-- A key and its colon. -/
def IsKey (t rest : Text) : Prop :=
  ∃ u w, skipBlanks t = '"' :: u ∧ IsString u w ∧ skipBlanks w = ':' :: rest

theorem IsKey.head {t rest : Text} (h : IsKey t rest) : ∃ u, skipBlanks t = '"' :: u := by
  obtain ⟨u, w, hu, -⟩ := h
  exact ⟨u, hu⟩

theorem IsKey.length_lt {t rest : Text} (h : IsKey t rest) : rest.length + 2 < t.length := by
  obtain ⟨u, w, hu, hw, hrest⟩ := h
  have := length_lt_of_skipBlanks_eq hu
  have := hw.length_lt
  have := length_lt_of_skipBlanks_eq hrest
  omega

/-- How far a piece of text goes: over a value, or from behind an item or a member to the bracket
    that closes the list or the object. -/
inductive Extent where
  | value
  | items
  | members

/-- The text starts with such a piece, and then comes the rest. -/
inductive WellFormed : Extent → (t rest : Text) → Prop where
  | word {w t rest : Text} : w ∈ ["null".toList, "true".toList, "false".toList] →
      skipBlanks t = w ++ rest → WellFormed .value t rest
  | number {n t rest : Text} : IsNumber n → endsNumber rest → skipBlanks t = n ++ rest →
      WellFormed .value t rest
  | string {t u rest : Text} : skipBlanks t = '"' :: u → IsString u rest →
      WellFormed .value t rest
  | emptyList {t u rest : Text} : skipBlanks t = '[' :: u → skipBlanks u = ']' :: rest →
      WellFormed .value t rest
  | list {t u w rest : Text} : skipBlanks t = '[' :: u → WellFormed .value u w →
      WellFormed .items w rest → WellFormed .value t rest
  | emptyObject {t u rest : Text} : skipBlanks t = '\x7b' :: u → skipBlanks u = '\x7d' :: rest →
      WellFormed .value t rest
  | object {t u v w rest : Text} : skipBlanks t = '\x7b' :: u → IsKey u v →
      WellFormed .value v w → WellFormed .members w rest → WellFormed .value t rest
  | lastItem {t rest : Text} : skipBlanks t = ']' :: rest → WellFormed .items t rest
  | item {t u w rest : Text} : skipBlanks t = ',' :: u → WellFormed .value u w →
      WellFormed .items w rest → WellFormed .items t rest
  | lastMember {t rest : Text} : skipBlanks t = '\x7d' :: rest → WellFormed .members t rest
  | member {t u v w rest : Text} : skipBlanks t = ',' :: u → IsKey u v →
      WellFormed .value v w → WellFormed .members w rest → WellFormed .members t rest

/-- The first character of a value closes no list. -/
theorem WellFormed.head {t rest : Text} (h : WellFormed .value t rest) :
    ∃ c u, skipBlanks t = c :: u ∧ c ≠ ']' := by
  cases h with
  | word hw ht =>
      simp only [List.mem_cons, List.not_mem_nil, or_false] at hw
      rcases hw with rfl | rfl | rfl <;> exact ⟨_, _, ht, by decide⟩
  | number hn _ ht =>
      obtain ⟨c, u, rfl, hc⟩ := hn.head
      refine ⟨c, _, ht, ?_⟩
      rintro rfl
      exact absurd hc (by decide)
  | string ht _ => exact ⟨_, _, ht, by decide⟩
  | emptyList ht _ => exact ⟨_, _, ht, by decide⟩
  | list ht _ _ => exact ⟨_, _, ht, by decide⟩
  | emptyObject ht _ => exact ⟨_, _, ht, by decide⟩
  | object ht _ _ _ => exact ⟨_, _, ht, by decide⟩

/-! ## Moves of the pass -/

namespace Bracket

/-- The character that opens a bracket. -/
def opening : Bracket → Char
  | list => '['
  | object => '\x7b'

/-- The character that closes it. -/
def closing : Bracket → Char
  | list => ']'
  | object => '\x7d'

/-- Where an item starts, or a member. -/
def place : Bracket → Place
  | list => .value
  | object => .key

end Bracket

/-- A value without parts takes one move. -/
theorem passes_scalar {c : Char} {t u rest : Text} (ht : skipBlanks t = c :: u)
    (hlist : c ≠ '[') (hobject : c ≠ '\x7b') (h : skipScalar c u = .ok rest)
    (stack : List Bracket) : Passes 1 .value stack t .afterValue stack rest := by
  intro fuel
  rw [skipFrom, ht]
  dsimp only
  rw [if_neg hlist, if_neg hobject, h]
  rfl

/-- An empty pair of brackets takes one move. -/
theorem passes_empty (b : Bracket) {t u rest : Text} (ht : skipBlanks t = b.opening :: u)
    (hu : skipBlanks u = b.closing :: rest) (stack : List Bracket) :
    Passes 1 .value stack t .afterValue stack rest := by
  intro fuel
  rw [skipFrom, ht]
  cases b with
  | list =>
      dsimp only [Bracket.opening]
      rw [if_pos rfl, hu]
      rfl
  | object =>
      dsimp only [Bracket.opening]
      rw [if_neg (by decide), if_pos rfl, hu]
      rfl

/-- Any other bracket is open until it is closed. -/
theorem passes_open (b : Bracket) {c : Char} {t u v : Text} (ht : skipBlanks t = b.opening :: u)
    (hu : skipBlanks u = c :: v) (hc : c ≠ b.closing) (stack : List Bracket) :
    Passes 1 .value stack t b.place (b :: stack) u := by
  intro fuel
  rw [skipFrom, ht, ← skipFrom_skipBlanks fuel (by cases b <;> decide), hu]
  cases b with
  | list =>
      dsimp only [Bracket.opening]
      rw [if_pos rfl, hu]
      exact if_neg hc
  | object =>
      dsimp only [Bracket.opening]
      rw [if_neg (by decide), if_pos rfl, hu]
      exact if_neg hc

theorem colon_of_skipBlanks {t u : Text} (h : skipBlanks t = ':' :: u) : colon t = .ok u := by
  rw [colon, h]
  rfl

theorem passes_key {t v : Text} (ht : IsKey t v) (stack : List Bracket) :
    Passes 1 .key stack t .value stack v := by
  intro fuel
  obtain ⟨u, w, hu, hw, hv⟩ := ht
  rw [skipFrom, hu]
  dsimp only
  rw [if_pos rfl, skipString_of_isString hw]
  dsimp only [bind, Except.bind]
  rw [colon_of_skipBlanks hv]

/-- Behind a value there is a comma, or its bracket is closed. -/
theorem passes_comma (b : Bracket) {t u : Text} (ht : skipBlanks t = ',' :: u)
    (stack : List Bracket) : Passes 1 .afterValue (b :: stack) t b.place (b :: stack) u := by
  intro fuel
  cases b <;> (rw [skipFrom, ht]; rfl)

theorem passes_close (b : Bracket) {t rest : Text} (ht : skipBlanks t = b.closing :: rest)
    (stack : List Bracket) : Passes 1 .afterValue (b :: stack) t .afterValue stack rest := by
  intro fuel
  cases b <;> (rw [skipFrom, ht]; rfl)

/-! ## Runs of the pass -/

/-- Where the pass over such a piece starts. -/
def Extent.place : Extent → Place
  | value => .value
  | items => .afterValue
  | members => .afterValue

/-- The brackets that are open when it starts and closed when it ends. -/
def Extent.brackets : Extent → List Bracket
  | value => []
  | items => [.list]
  | members => [.object]

/-- A word is a scalar. -/
theorem skipScalar_of_word {w : Text} (hw : w ∈ ["null".toList, "true".toList, "false".toList])
    (rest : Text) : ∃ c u, w = c :: u ∧ c ≠ '[' ∧ c ≠ '\x7b' ∧
      skipScalar c (u ++ rest) = .ok rest := by
  simp only [List.mem_cons, List.not_mem_nil, or_false] at hw
  rcases hw with rfl | rfl | rfl <;> exact ⟨_, _, rfl, by decide, by decide, rfl⟩

/-- A number is a scalar. -/
theorem skipScalar_of_isNumber {n rest : Text} (hn : IsNumber n) (hrest : endsNumber rest) :
    ∃ c u, n = c :: u ∧ c ≠ '[' ∧ c ≠ '\x7b' ∧ skipScalar c (u ++ rest) = .ok rest := by
  have hskip := skipNumber_of_isNumber hn hrest
  obtain ⟨c, u, rfl, hc⟩ := hn.head
  have hne : ∀ d, ¬ (d = '-' ∨ d.isDigit = true) → c ≠ d := by
    rintro d hd rfl
    exact hd hc
  refine ⟨c, u, rfl, hne _ (by decide), hne _ (by decide), ?_⟩
  rw [skipScalar, if_neg (hne 'n' (by decide)), if_neg (hne 't' (by decide)),
    if_neg (hne 'f' (by decide)), if_pos hc]
  exact hskip

theorem skipScalar_of_isString {t rest : Text} (h : IsString t rest) :
    skipScalar '"' t = .ok rest :=
  skipString_of_isString h

/-- **Skipping.** A piece of text is passed over to its end, in no more moves than it has
    characters. -/
theorem passes_of_wellFormed {e : Extent} {t rest : Text} (h : WellFormed e t rest) :
    ∃ n, 0 < n ∧ n + rest.length ≤ t.length ∧
      ∀ stack, Passes n e.place (e.brackets ++ stack) t .afterValue stack rest := by
  induction h with
  | word hw ht =>
      obtain ⟨c, u, rfl, hlist, hobject, hskip⟩ := skipScalar_of_word hw _
      have hlength := length_lt_of_skipBlanks_eq ht
      rw [List.append_eq, List.length_append] at hlength
      exact ⟨1, by omega, by omega, passes_scalar ht hlist hobject hskip⟩
  | number hn hrest ht =>
      obtain ⟨c, u, rfl, hlist, hobject, hskip⟩ := skipScalar_of_isNumber hn hrest
      have hlength := length_lt_of_skipBlanks_eq ht
      rw [List.append_eq, List.length_append] at hlength
      exact ⟨1, by omega, by omega, passes_scalar ht hlist hobject hskip⟩
  | string ht hu =>
      have hlength := length_lt_of_skipBlanks_eq ht
      have hrest := hu.length_lt
      exact ⟨1, by omega, by omega,
        passes_scalar ht (by decide) (by decide) (skipScalar_of_isString hu)⟩
  | emptyList ht hu =>
      have hlength := length_lt_of_skipBlanks_eq ht
      have hrest := length_lt_of_skipBlanks_eq hu
      exact ⟨1, by omega, by omega, passes_empty .list ht hu⟩
  | list ht hu _ ihvalue ihitems =>
      obtain ⟨n, hn, hnle, hvalue⟩ := ihvalue
      obtain ⟨m, hm, hmle, hitems⟩ := ihitems
      obtain ⟨c, v, hv, hc⟩ := hu.head
      have hlength := length_lt_of_skipBlanks_eq ht
      refine ⟨m + (n + 1), by omega, by omega, fun stack => ?_⟩
      have hopen := passes_open .list ht hv hc stack
      exact (hopen.trans (hvalue (.list :: stack))).trans (hitems stack)
  | emptyObject ht hu =>
      have hlength := length_lt_of_skipBlanks_eq ht
      have hrest := length_lt_of_skipBlanks_eq hu
      exact ⟨1, by omega, by omega, passes_empty .object ht hu⟩
  | object ht hu _ _ ihvalue ihmembers =>
      obtain ⟨n, hn, hnle, hvalue⟩ := ihvalue
      obtain ⟨m, hm, hmle, hmembers⟩ := ihmembers
      obtain ⟨v, hv⟩ := hu.head
      have hlength := length_lt_of_skipBlanks_eq ht
      have hkey := hu.length_lt
      refine ⟨m + (n + (1 + 1)), by omega, by omega, fun stack => ?_⟩
      have hopen := (passes_open .object ht hv (by decide) stack).trans
        (passes_key hu (.object :: stack))
      exact (hopen.trans (hvalue (.object :: stack))).trans (hmembers stack)
  | lastItem ht =>
      have hlength := length_lt_of_skipBlanks_eq ht
      exact ⟨1, by omega, by omega, passes_close .list ht⟩
  | item ht _ _ ihvalue ihitems =>
      obtain ⟨n, hn, hnle, hvalue⟩ := ihvalue
      obtain ⟨m, hm, hmle, hitems⟩ := ihitems
      have hlength := length_lt_of_skipBlanks_eq ht
      refine ⟨m + (n + 1), by omega, by omega, fun stack => ?_⟩
      exact ((passes_comma .list ht stack).trans (hvalue (.list :: stack))).trans (hitems stack)
  | lastMember ht =>
      have hlength := length_lt_of_skipBlanks_eq ht
      exact ⟨1, by omega, by omega, passes_close .object ht⟩
  | member ht hu _ _ ihvalue ihmembers =>
      obtain ⟨n, hn, hnle, hvalue⟩ := ihvalue
      obtain ⟨m, hm, hmle, hmembers⟩ := ihmembers
      have hlength := length_lt_of_skipBlanks_eq ht
      have hkey := hu.length_lt
      refine ⟨m + (n + (1 + 1)), by omega, by omega, fun stack => ?_⟩
      have hcomma := (passes_comma .object ht stack).trans (passes_key hu (.object :: stack))
      exact (hcomma.trans (hvalue (.object :: stack))).trans (hmembers stack)

theorem WellFormed.length_lt {e : Extent} {t rest : Text} (h : WellFormed e t rest) :
    rest.length < t.length := by
  obtain ⟨n, hn, hle, -⟩ := passes_of_wellFormed h
  omega

/-- A well-formed value is passed over to its end, blanks in front of it apart. -/
theorem skipValue_of_wellFormed {t rest : Text} (h : WellFormed .value (skipBlanks t) rest) :
    skipValue t = .ok rest := by
  obtain ⟨n, -, hle, hpasses⟩ := passes_of_wellFormed h
  have hblanks := length_skipBlanks_le t
  obtain ⟨fuel, hfuel⟩ : ∃ fuel, t.length + 1 = fuel + 1 + n := ⟨t.length - n, by omega⟩
  have hrun : skipFrom (fuel + 1 + n) .value [] (skipBlanks t)
      = skipFrom (fuel + 1) .afterValue [] rest :=
    hpasses [] (fuel + 1)
  rw [skipValue, hfuel, ← skipFrom_skipBlanks _ (by decide), hrun, skipFrom]

end OrderOfGrowth.Json
