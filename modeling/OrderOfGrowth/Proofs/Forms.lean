import OrderOfGrowth.Json.Decoder
import OrderOfGrowth.Json.Writer
import OrderOfGrowth.Proofs.Skipping

/-! # Forms — sets of JSON texts, and what is read from them

    A `Form` says which texts a value may have: what is fixed about it and what is left open.  Of a
    text only its characters are fixed, not how they are escaped; of an object the keys and the
    forms of their values; of `Form.any` nothing but that it is JSON.  Blanks between the parts are
    open everywhere.

    `Reads read f a` says that every text of the form `f` is read as `a`.  It holds of texts, sizes
    and truth values and, by a run over the items, of lists of what is read. -/

namespace OrderOfGrowth.Json

/-- A set of texts that values may have, each given by its first character and what follows. -/
structure Form where
  /-- The text behind the first character goes on with the value, and then comes the rest. -/
  inside : (c : Char) → (t rest : Text) → Prop
  /-- The first character closes no list. -/
  not_closing : ∀ {c : Char} {t rest : Text}, inside c t rest → c ≠ ']'
  length_le : ∀ {c : Char} {t rest : Text}, inside c t rest → rest.length ≤ t.length

/-- What stands between two items: nothing in front of the first, and a comma later. -/
def Continues (first : Bool) (t u : Text) : Prop :=
  match first with
  | true => u = t
  | false => skipBlanks t = ',' :: u

theorem Continues.length_le {first : Bool} {t u : Text} (h : Continues first t u) :
    u.length ≤ t.length := by
  cases first with
  | true => exact Nat.le_of_eq (congrArg List.length h)
  | false => exact Nat.le_of_lt (length_lt_of_skipBlanks_eq h)

namespace Form

/-- The text starts with a value of the form, blanks apart, and then comes the rest. -/
def Spells (f : Form) (t rest : Text) : Prop := ∃ c u, skipBlanks t = c :: u ∧ f.inside c u rest

/-- The whole text is a value of the form, blanks apart. -/
def IsText (f : Form) (t : Text) : Prop := ∃ rest, f.Spells t rest ∧ skipBlanks rest = []

/-- Blanks in front of a value do not matter. -/
theorem Spells.congr {f : Form} {t t' rest : Text} (ht : skipBlanks t = skipBlanks t')
    (h : f.Spells t rest) : f.Spells t' rest := by
  rwa [Spells, ← ht]

theorem Spells.length_lt {f : Form} {t rest : Text} (h : f.Spells t rest) :
    rest.length < t.length := by
  obtain ⟨c, u, hu, hinside⟩ := h
  have := length_lt_of_skipBlanks_eq hu
  have := f.length_le hinside
  omega

/-- The text holds the items of an open list and its closing bracket. -/
def SpellsItems : List Form → (first : Bool) → (t rest : Text) → Prop
  | [], _, t, rest => skipBlanks t = ']' :: rest
  | f :: fs, first, t, rest =>
    ∃ u w, Continues first t u ∧ f.Spells u w ∧ SpellsItems fs false w rest

/-- The text holds the members of an open object and its closing bracket. -/
def SpellsMembers : List (Text × Form) → (first : Bool) → (t rest : Text) → Prop
  | [], _, t, rest => skipBlanks t = '\x7d' :: rest
  | (k, f) :: ms, first, t, rest =>
    ∃ u v w x y, Continues first t u ∧ skipBlanks u = '"' :: v ∧ SpellsString k v w ∧
      skipBlanks w = ':' :: x ∧ f.Spells x y ∧ SpellsMembers ms false y rest

/-- Every item takes a character, and the bracket takes one too. -/
theorem SpellsItems.length_lt {fs : List Form} {first : Bool} {t rest : Text}
    (h : SpellsItems fs first t rest) : fs.length + rest.length < t.length := by
  induction fs generalizing first t with
  | nil =>
      rw [List.length_nil, Nat.zero_add]
      exact length_lt_of_skipBlanks_eq h
  | cons f fs ih =>
      obtain ⟨u, w, hcont, hf, hfs⟩ := h
      have := hcont.length_le
      have := hf.length_lt
      have := ih hfs
      rw [List.length_cons]
      omega

/-- Every member takes a character, and the bracket takes one too. -/
theorem SpellsMembers.length_lt {ms : List (Text × Form)} {first : Bool} {t rest : Text}
    (h : SpellsMembers ms first t rest) : ms.length + rest.length < t.length := by
  induction ms generalizing first t with
  | nil =>
      rw [List.length_nil, Nat.zero_add]
      exact length_lt_of_skipBlanks_eq h
  | cons m ms ih =>
      obtain ⟨u, v, w, x, y, hcont, hu, hkey, hcolon, hf, hms⟩ := h
      have := hcont.length_le
      have := length_lt_of_skipBlanks_eq hu
      have := length_lt_of_spellsString hkey
      have := length_lt_of_skipBlanks_eq hcolon
      have := hf.length_lt
      have := ih hms
      rw [List.length_cons]
      omega

/-! ## The forms -/

/-- A text, escaped in any way. -/
def text (s : Text) : Form where
  inside c t rest := c = '"' ∧ SpellsString s t rest
  not_closing h := by rw [h.1]; decide
  length_le h := Nat.le_of_lt (length_lt_of_spellsString h.2)

/-- A truth value. -/
def bool (b : Bool) : Form where
  inside c t rest := c :: t = Value.writeBool b ++ rest
  not_closing h := by
    cases b <;> (rw [(List.cons.inj h).1]; decide)
  length_le h := by
    cases b <;>
      (rw [(List.cons.inj h).2, List.append_eq, List.length_append]; exact Nat.le_add_left ..)

/-- A size, in digits. -/
def size (n : UInt64) : Form where
  inside c t rest := c :: t = Text.ofNat n.toNat ++ rest ∧ endsNumber rest
  not_closing h := by
    obtain ⟨d, ds, hds, hd⟩ := exists_ofNat_eq_cons n.toNat
    rw [hds] at h
    rw [(List.cons.inj h.1).1]
    rintro rfl
    exact nomatch hd
  length_le h := by
    obtain ⟨d, ds, hds, hd⟩ := exists_ofNat_eq_cons n.toNat
    rw [hds] at h
    rw [(List.cons.inj h.1).2, List.append_eq, List.length_append]
    exact Nat.le_add_left ..

/-- A list with one item of each form. -/
def list (fs : List Form) : Form where
  inside c t rest := c = '[' ∧ SpellsItems fs true t rest
  not_closing h := by rw [h.1]; decide
  length_le h := by
    have := h.2.length_lt
    omega

/-- An object with these keys, escaped in any way, and values of these forms, in this order. -/
def object (ms : List (Text × Form)) : Form where
  inside c t rest := c = '\x7b' ∧ SpellsMembers ms true t rest
  not_closing h := by rw [h.1]; decide
  length_le h := by
    have := h.2.length_lt
    omega

/-- Any value at all. -/
def any : Form where
  inside c t rest := WellFormed .value (c :: t) rest
  not_closing h := by
    obtain ⟨d, u, hu, hd⟩ := h.head
    rintro rfl
    rw [skipBlanks_cons_of_not (by decide)] at hu
    exact hd (List.cons.inj hu).1.symm
  length_le h := Nat.le_of_lt_succ h.length_lt

end Form

/-! ## The places between values -/

theorem nextItem_of_closed {t rest : Text} (first : Bool) (h : skipBlanks t = ']' :: rest) :
    nextItem first t = .ok (.closed rest) := by
  rw [nextItem, h]
  rfl

theorem endList_of_closed {t rest : Text} (h : skipBlanks t = ']' :: rest) :
    endList t = .ok rest := by
  rw [endList, h]
  rfl

theorem nextItem_of_spells {first : Bool} {t u w : Text} {f : Form} (h : Continues first t u)
    (hf : f.Spells u w) : nextItem first t = .ok (.more (skipBlanks u)) := by
  obtain ⟨c, x, hu, hinside⟩ := hf
  have hc := f.not_closing hinside
  cases first with
  | true =>
      obtain rfl : u = t := h
      rw [nextItem, hu]
      exact if_neg hc
  | false =>
      rw [nextItem, h]
      simp [hu, hc]

theorem nextKey_of_closed {t rest : Text} (first : Bool) (h : skipBlanks t = '\x7d' :: rest) :
    nextKey first t = .ok (.closed rest) := by
  rw [nextKey, h]
  rfl

theorem nextKey_of_quote {first : Bool} {t u v : Text} (h : Continues first t u)
    (hu : skipBlanks u = '"' :: v) : nextKey first t = .ok (.more v) := by
  cases first with
  | true =>
      obtain rfl : u = t := h
      rw [nextKey, hu]
      rfl
  | false =>
      rw [nextKey, h]
      simp [hu]

/-! ## Reading -/

/-- Every text of the form is read as `a`, with what follows left over. -/
def Reads {α : Type} (read : Reader α) (f : Form) (a : α) : Prop :=
  ∀ ⦃t rest : Text⦄, f.Spells t rest → read t = .ok (a, rest)

theorem Decoder.start_of_skipBlanks {α : Type} {k : Char → Text → Except Error α} {t u : Text}
    {c : Char} (h : skipBlanks t = c :: u) : start k t = k c u := by
  rw [start, h]

theorem reads_text (s : Text) : Reads Decoder.text.read (.text s) s := by
  rintro t rest ⟨_, u, hu, rfl, hs⟩
  refine (Decoder.start_of_skipBlanks hu).trans ((if_pos rfl).trans ?_)
  exact stringFrom_of_spellsString hs []

theorem reads_bool (b : Bool) : Reads Decoder.bool.read (.bool b) b := by
  rintro t rest ⟨c, u, hu, hinside⟩
  rw [hinside] at hu
  cases b <;> exact Decoder.start_of_skipBlanks hu

theorem reads_size (n : UInt64) : Reads Decoder.size.read (.size n) n := by
  rintro t rest ⟨c, u, hu, hdigits, hrest⟩
  have hnumber := number_ofNat n hrest
  rw [← hdigits] at hnumber
  have hc : c = '-' ∨ c.isDigit = true := by
    obtain ⟨d, ds, hds, hd⟩ := exists_ofNat_eq_cons n.toNat
    rw [hds] at hdigits
    exact .inr ((List.cons.inj hdigits).1 ▸ hd)
  refine (Decoder.start_of_skipBlanks hu).trans ((if_pos hc).trans ?_)
  rw [hnumber]
  rfl

/-- A run over the items of a list. -/
theorem itemsFrom_of_spells {α : Type} {item : Reader α} {fs : List Form} {as : List α}
    (h : List.Forall₂ (Reads item) fs as) {fuel : Nat} {first : Bool} {done : List α}
    {t rest : Text} (hfuel : fs.length < fuel) (ht : Form.SpellsItems fs first t rest) :
    itemsFrom item fuel first done t = .ok (done.reverse ++ as, rest) := by
  induction h generalizing fuel first done t with
  | nil =>
      obtain ⟨fuel, rfl⟩ := Nat.exists_eq_succ_of_ne_zero (Nat.ne_zero_of_lt hfuel)
      rw [itemsFrom, nextItem_of_closed first ht, List.append_nil]
      rfl
  | cons hf _ ih =>
      obtain ⟨fuel, rfl⟩ := Nat.exists_eq_succ_of_ne_zero (Nat.ne_zero_of_lt hfuel)
      obtain ⟨u, w, hcont, hu, hw⟩ := ht
      -- The blanks before the item are gone when its reader starts.
      have hitem := hf (hu.congr (skipBlanks_skipBlanks u).symm)
      rw [itemsFrom, nextItem_of_spells hcont hu]
      dsimp only [bind, Except.bind]
      rw [hitem]
      dsimp only
      rw [ih (Nat.lt_of_succ_lt_succ hfuel) hw, List.reverse_cons, List.append_assoc,
        List.singleton_append]

theorem reads_list {α : Type} {d : Decoder α} {form : α → Form}
    (h : ∀ a, Reads d.read (form a) a) (as : List α) :
    Reads d.list.read (.list (as.map form)) as := by
  rintro t rest ⟨_, u, hu, rfl, hitems⟩
  have hlength := hitems.length_lt
  have hreads : List.Forall₂ (Reads d.read) (as.map form) as :=
    List.forall₂_map_left_iff.mpr (List.forall₂_same.mpr fun a _ => h a)
  refine (Decoder.start_of_skipBlanks hu).trans ((if_pos rfl).trans ?_)
  rw [items, itemsFrom_of_spells hreads (by omega) hitems, List.reverse_nil, List.nil_append]

theorem reads_map {α β : Type} {d : Decoder α} {f : Form} {a : α} {b : β} (h : Reads d.read f a)
    (g : α → β) (hb : g a = b) : Reads (d.map g).read f b := by
  intro t rest ht
  rw [Decoder.map, ← hb]
  dsimp only
  rw [h ht]
  rfl

/-- A value that nobody asked for is passed over to its end. -/
theorem skipValue_of_spells {t rest : Text} (h : Form.any.Spells t rest) :
    skipValue t = .ok rest := by
  obtain ⟨c, u, hu, hvalue⟩ := h
  refine skipValue_of_wellFormed ?_
  rwa [hu]

/-- What a form is read as is decoded from each of its texts. -/
theorem Decoder.decode_of_isText {α : Type} {d : Decoder α} {f : Form} {a : α}
    (h : Reads d.read f a) {t : Text} (ht : f.IsText t) : d.decode t = .ok a := by
  obtain ⟨rest, hspells, hrest⟩ := ht
  rw [decode, h hspells]
  dsimp only [bind, Except.bind]
  rw [endOfText, hrest]
  rfl

end OrderOfGrowth.Json
