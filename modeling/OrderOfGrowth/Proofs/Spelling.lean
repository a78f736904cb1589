import OrderOfGrowth.Proofs.Forms

/-! # Spelling — the JSON texts of a value, and their forms

    `Value.Spells v t rest` says that `t` is a text of `v`, with any blanks between its parts, and
    that `rest` follows it.  Nothing below the indented form knows about levels and line ends:

    * `Value.IsOf v f` — every text of `v` has the form `f`, so whatever reads the form reads the
      value.  It holds of texts, sizes and truth values, and of lists and objects part by part;
    * `Value.spells_indentedOnto` — the indented form is a text of its value;
    * `Decoder.decode_indented` — so it is decoded to what the form is read as. -/

namespace OrderOfGrowth

/-- A decimal starts with a digit. -/
theorem DecimalLayout.exists_write_eq_cons (l : DecimalLayout) (d : Decimal) :
    ∃ c u, l.write d = c :: u ∧ c.isDigit := by
  obtain ⟨c, u, hdigits, hc⟩ := Json.exists_ofNat_eq_cons d.digits
  rw [write, hdigits]
  split
  · rw [positional]
    split
    · exact ⟨_, _, rfl, rfl⟩
    · exact ⟨c, _, rfl, hc⟩
  · exact ⟨c, _, rfl, hc⟩

namespace Json

/-- A written number starts with a digit, a minus sign or, if it is not finite, as null does. -/
theorem Number.exists_write_eq_cons (n : Number) :
    ∃ c u, n.write = c :: u ∧ (c.isDigit ∨ c = '-' ∨ c = 'n') := by
  cases n with
  | natural n =>
      obtain ⟨d, ds, h, hd⟩ := exists_ofNat_eq_cons n.toNat
      exact ⟨d, ds, h, .inl hd⟩
  | negative n => exact ⟨_, _, rfl, .inr (.inl rfl)⟩
  | real x =>
      rw [write, DecimalLayout.writeFloat?]
      rcases Decimal.ofFloat? x with _ | ⟨_ | _, d⟩
      · exact ⟨_, _, rfl, .inr (.inr rfl)⟩
      · obtain ⟨c, u, h, hc⟩ := DecimalLayout.exists_write_eq_cons numberLayout d
        exact ⟨c, u, h, .inl hc⟩
      · exact ⟨_, _, rfl, .inr (.inl rfl)⟩

/-! ## Texts of a value -/

namespace Value

mutual

/-- The text is one of the value, with strings and numbers as they are written and any blanks
    between the parts, and then comes the rest. -/
def Spells : Value → (t rest : Text) → Prop
  | null, t, rest => skipBlanks t = "null".toList ++ rest
  | bool b, t, rest => skipBlanks t = writeBool b ++ rest
  | number n, t, rest => skipBlanks t = n.write ++ rest
  | text s, t, rest => skipBlanks t = string s ++ rest
  | list vs, t, rest => ∃ u, skipBlanks t = '[' :: u ∧ SpellsItems vs true u rest
  | object ms, t, rest => ∃ u, skipBlanks t = '\x7b' :: u ∧ SpellsMembers ms true u rest

/-- The text holds the items of an open list and its closing bracket. -/
def SpellsItems : List Value → (first : Bool) → (t rest : Text) → Prop
  | [], _, t, rest => skipBlanks t = ']' :: rest
  | v :: vs, first, t, rest =>
    ∃ u w, Continues first t u ∧ Spells v u w ∧ SpellsItems vs false w rest

/-- The text holds the members of an open object and its closing bracket. -/
def SpellsMembers : List (Text × Value) → (first : Bool) → (t rest : Text) → Prop
  | [], _, t, rest => skipBlanks t = '\x7d' :: rest
  | (k, v) :: ms, first, t, rest =>
    ∃ u w x y, Continues first t u ∧ skipBlanks u = string k ++ w ∧ skipBlanks w = ':' :: x ∧
      Spells v x y ∧ SpellsMembers ms false y rest

end

/-- Blanks in front of a value do not matter. -/
theorem Spells.congr {v : Value} {t t' rest : Text} (ht : skipBlanks t = skipBlanks t')
    (h : v.Spells t rest) : v.Spells t' rest := by
  cases v <;> simpa only [Spells, ht] using h

end Value

/-- What follows an item of a list ends a number. -/
theorem Value.SpellsItems.endsNumber {vs : List Value} {t rest : Text}
    (h : SpellsItems vs false t rest) : endsNumber t := by
  cases vs with
  | nil => exact endsNumber_of_skipBlanks h rfl
  | cons v vs =>
      obtain ⟨u, w, hcont, -⟩ := h
      exact endsNumber_of_skipBlanks hcont rfl

/-- What follows a member of an object ends a number. -/
theorem Value.SpellsMembers.endsNumber {ms : List (Text × Value)} {t rest : Text}
    (h : SpellsMembers ms false t rest) : endsNumber t := by
  cases ms with
  | nil => exact endsNumber_of_skipBlanks h rfl
  | cons m ms =>
      obtain ⟨u, w, x, y, hcont, -⟩ := h
      exact endsNumber_of_skipBlanks hcont rfl

/-! ## The forms of a value -/

namespace Value

/-- Every text of the value has the form. -/
def IsOf (v : Value) (f : Form) : Prop :=
  ∀ ⦃t rest : Text⦄, v.Spells t rest → Json.endsNumber rest → f.Spells t rest

theorem isOf_text (s : Text) : (text s).IsOf (.text s) := by
  intro t rest ht _
  rw [Spells, string_append] at ht
  exact ⟨'"', _, ht, rfl, spellsString_flatMap s rest⟩

theorem isOf_bool (b : Bool) : (bool b).IsOf (.bool b) := by
  intro t rest ht _
  cases b <;> exact ⟨_, _, ht, rfl⟩

theorem isOf_size (n : UInt64) : (number (.natural n)).IsOf (.size n) := by
  intro t rest ht hrest
  obtain ⟨d, ds, hds, -⟩ := exists_ofNat_eq_cons n.toNat
  rw [Spells, Number.write, hds] at ht
  exact ⟨d, _, ht, by rw [hds]; rfl, hrest⟩

theorem spellsItems_of_isOf {vs : List Value} {fs : List Form} (h : List.Forall₂ IsOf vs fs)
    {first : Bool} {t rest : Text} (ht : SpellsItems vs first t rest) :
    Form.SpellsItems fs first t rest := by
  induction h generalizing first t with
  | nil => exact ht
  | cons hv _ ih =>
      obtain ⟨u, w, hcont, hu, hw⟩ := ht
      exact ⟨u, w, hcont, hv hu hw.endsNumber, ih hw⟩

theorem isOf_list {α : Type} {value : α → Value} {form : α → Form}
    (h : ∀ a, (value a).IsOf (form a)) (as : List α) :
    (list (as.map value)).IsOf (.list (as.map form)) := by
  rintro t rest ⟨u, hu, hitems⟩ -
  have hforms : List.Forall₂ IsOf (as.map value) (as.map form) :=
    List.forall₂_map_left_iff.mpr (List.forall₂_map_right_iff.mpr
      (List.forall₂_same.mpr fun a _ => h a))
  exact ⟨'[', u, hu, rfl, spellsItems_of_isOf hforms hitems⟩

/-- The member has a form: its key is fixed, and its value has a form. -/
def MemberIsOf (m : Text × Value) (f : Text × Form) : Prop := m.1 = f.1 ∧ m.2.IsOf f.2

theorem spellsMembers_of_isOf {ms : List (Text × Value)} {fs : List (Text × Form)}
    (h : List.Forall₂ MemberIsOf ms fs) {first : Bool} {t rest : Text}
    (ht : SpellsMembers ms first t rest) : Form.SpellsMembers fs first t rest := by
  induction h generalizing first t with
  | nil => exact ht
  | @cons m f _ _ hm _ ih =>
      obtain ⟨hkey, hvalue⟩ := hm
      obtain ⟨u, w, x, y, hcont, hu, hcolon, hx, hy⟩ := ht
      rw [hkey, string_append] at hu
      exact ⟨u, _, w, x, y, hcont, hu, spellsString_flatMap f.1 w, hcolon,
        hvalue hx hy.endsNumber, ih hy⟩

theorem isOf_object {ms : List (Text × Value)} {fs : List (Text × Form)}
    (h : List.Forall₂ MemberIsOf ms fs) : (object ms).IsOf (.object fs) := by
  rintro t rest ⟨u, hu, hmembers⟩ -
  exact ⟨'\x7b', u, hu, rfl, spellsMembers_of_isOf h hmembers⟩

end Value

/-! ## The indented form -/

theorem skipBlanks_newline (level : Nat) (t : Text) :
    skipBlanks (newline level ++ t) = skipBlanks t := by
  refine skipBlanks_append ?_ t
  intro c hc
  rcases List.mem_cons.mp hc with rfl | hc
  · rfl
  · rw [List.eq_of_mem_replicate hc]
    rfl

theorem skipBlanks_space (t : Text) : skipBlanks (' ' :: t) = skipBlanks t := rfl

theorem skipBlanks_string (k t : Text) : skipBlanks (string k ++ t) = string k ++ t := rfl

theorem skipBlanks_write (n : Number) (rest : Text) :
    skipBlanks (n.write ++ rest) = n.write ++ rest := by
  obtain ⟨c, u, hn, hc⟩ := n.exists_write_eq_cons
  rw [hn, List.cons_append, skipBlanks_cons_of_not]
  rw [Bool.eq_false_iff]
  intro hblank
  rcases eq_of_isJsonBlank hblank with rfl | rfl | rfl | rfl <;> simp at hc

namespace Value

mutual

/-- The indented form is a text of its value. -/
theorem spells_indentedOnto (level : Nat) : ∀ (v : Value) (rest : Text),
    v.Spells (v.indentedOnto level rest) rest
  | null, rest => by rw [Spells, indentedOnto]; rfl
  | bool b, rest => by rw [Spells, indentedOnto]; cases b <;> rfl
  | number n, rest => by rw [Spells, indentedOnto, skipBlanks_write]
  | text t, rest => by rw [Spells, indentedOnto]; rfl
  | list [], rest => by
      rw [Spells, indentedOnto]
      exact ⟨_, rfl, rfl⟩
  | list (v :: vs), rest => by
      rw [Spells, indentedOnto]
      refine ⟨_, rfl, _, _, rfl, ?_, spellsItems_indentedItems (level + 1) vs level rest⟩
      exact (spells_indentedOnto (level + 1) v _).congr (skipBlanks_newline _ _).symm
  | object [], rest => by
      rw [Spells, indentedOnto]
      exact ⟨_, rfl, rfl⟩
  | object ((k, v) :: ms), rest => by
      rw [Spells, indentedOnto]
      refine ⟨_, rfl, _, _, _, _, rfl, (skipBlanks_newline _ _).trans (skipBlanks_string k _), rfl,
        ?_, spellsMembers_indentedMembers (level + 1) ms level rest⟩
      exact (spells_indentedOnto (level + 1) v _).congr (skipBlanks_space _).symm

theorem spellsItems_indentedItems (level : Nat) : ∀ (vs : List Value) (outer : Nat) (rest : Text),
    SpellsItems vs false (indentedItems level vs (newline outer ++ ']' :: rest)) rest
  | [], outer, rest => by
      rw [SpellsItems, indentedItems, skipBlanks_newline]
      rfl
  | v :: vs, outer, rest => by
      rw [SpellsItems, indentedItems]
      refine ⟨_, _, rfl, ?_, spellsItems_indentedItems level vs outer rest⟩
      exact (spells_indentedOnto level v _).congr (skipBlanks_newline _ _).symm

theorem spellsMembers_indentedMembers (level : Nat) :
    ∀ (ms : List (Text × Value)) (outer : Nat) (rest : Text),
      SpellsMembers ms false (indentedMembers level ms (newline outer ++ '\x7d' :: rest)) rest
  | [], outer, rest => by
      rw [SpellsMembers, indentedMembers, skipBlanks_newline]
      rfl
  | (k, v) :: ms, outer, rest => by
      rw [SpellsMembers, indentedMembers]
      refine ⟨_, _, _, _, rfl, (skipBlanks_newline _ _).trans (skipBlanks_string k _), rfl, ?_,
        spellsMembers_indentedMembers level ms outer rest⟩
      exact (spells_indentedOnto level v _).congr (skipBlanks_space _).symm

end

end Value

/-- What a form is read as is decoded from the indented form of its values. -/
theorem Decoder.decode_indented {α : Type} {d : Decoder α} {v : Value} {f : Form} {a : α}
    (hv : v.IsOf f) (h : Reads d.read f a) : d.decode v.indented = .ok a :=
  decode_of_isText h ⟨[], hv (v.spells_indentedOnto 0 []) rfl, rfl⟩

end Json

end OrderOfGrowth
