import Mathlib.Data.List.Basic
import OrderOfGrowth.FileTree.Path

/-! # Printed paths — how a path reads, and the path of what lies below it

    * `Path.shown_bytes` — a path that is a text is printed as that text, so only a path that is
      none is changed by being printed.  The bytes of a character are read as that character
      whatever follows them, which is `Path.shown_encodeChar_append`;
    * `Path.foldl_join` — joining names to a path, one after the other, comes to the path, one slash
      unless it ends in one, and the names with slashes between them.  That needs names to be names:
      one that ends in a slash would swallow the next slash. -/

namespace OrderOfGrowth

namespace Path

/-! ## Printing -/

/-- The bytes of a character are read as that character, whatever follows them. -/
theorem firstChar?_encodeChar_append (c : Char) (rest : Bytes) :
    firstChar? (String.utf8EncodeChar c ++ rest) = some c := by
  have hlength : (String.utf8EncodeChar c).length ≤ 4 := by
    rw [String.length_utf8EncodeChar]
    exact c.utf8Size_le_four
  rw [firstChar?, List.take_append, List.take_of_length_le hlength, List.toByteArray_append]
  exact ByteArray.utf8DecodeChar?_utf8EncodeChar_append

theorem shownFrom_append {done : Nat} {bs : Bytes} (h : bs.length = done) (rest : Bytes) :
    shownFrom done (bs ++ rest) = shown rest := by
  subst h
  induction bs with
  | nil => rfl
  | cons b bs ih => exact ih

theorem shown_encodeChar_append (c : Char) (rest : Bytes) :
    shown (String.utf8EncodeChar c ++ rest) = c :: shown rest := by
  have hsize : (String.utf8EncodeChar c).length = c.utf8Size := String.length_utf8EncodeChar c
  have hfirst := firstChar?_encodeChar_append c rest
  cases hcode : String.utf8EncodeChar c with
  | nil =>
      rw [hcode] at hsize
      exact absurd hsize.symm (Nat.ne_of_gt c.utf8Size_pos)
  | cons b bs =>
      rw [hcode, List.length_cons] at hsize
      rw [hcode, List.cons_append] at hfirst
      rw [shown, List.cons_append, shownFrom, hfirst]
      dsimp only
      rw [shownFrom_append (by omega)]

/-- A path that is a text is printed as that text. -/
theorem shown_bytes (t : Text) : shown t.bytes = t := by
  induction t with
  | nil => rfl
  | cons c t ih =>
      rw [show Text.bytes (c :: t) = String.utf8EncodeChar c ++ Text.bytes t from rfl,
        shown_encodeChar_append, ih]

/-- One replacement character for each byte that starts no character, and one for a character that
    breaks off. -/
example : shown [0xFF, 0xE2, 0x82, 0x2F, 0x61] = ['\uFFFD', '\uFFFD', '/', 'a'] := by decide

/-! ## Paths below a path -/

/-- A name of something in a directory: some bytes without a slash. -/
structure IsName (name : Name) : Prop where
  ne_nil : name ≠ []
  no_slash : slash ∉ name

instance (name : Name) : Decidable (IsName name) :=
  decidable_of_iff (name ≠ [] ∧ slash ∉ name) ⟨fun h => ⟨h.1, h.2⟩, fun h => ⟨h.1, h.2⟩⟩

/-- What stands between a path and a name below it: a slash, unless the path is empty or ends in
    one. -/
def separator (path : Path) : Path :=
  if path = [] ∨ path.getLast? = some slash then [] else [slash]

/-- The path of what some names lead to below a path. -/
def below (path : Path) (names : List Name) : Path :=
  path ++ path.separator ++ [slash].intercalate names

theorem join_eq (path : Path) (name : Name) : path.join name = path ++ path.separator ++ name := by
  rw [join, separator]
  cases hlast : path.getLast? with
  | none =>
      obtain rfl := List.getLast?_eq_none_iff.mp hlast
      rfl
  | some b =>
      have hne : path ≠ [] := by
        rintro rfl
        exact nomatch hlast
      by_cases hb : b = slash
      · simp [hb]
      · simp [hb, hne]

/-- Behind a name, a slash is needed before the next one. -/
theorem separator_join {name : Name} (h : IsName name) (path : Path) :
    (path.join name).separator = [slash] := by
  rw [join_eq, separator, if_neg]
  rintro (hnil | hlast)
  · exact h.ne_nil (List.append_eq_nil_iff.mp hnil).2
  · rw [List.getLast?_append_of_ne_nil _ h.ne_nil] at hlast
    exact h.no_slash (List.mem_of_getLast? hlast)

/-- Names that are joined to a path one after the other are divided by slashes. -/
theorem foldl_join {names : List Name} (hne : names ≠ []) (h : ∀ name ∈ names, IsName name)
    (path : Path) : names.foldl join path = path.below names := by
  induction names generalizing path with
  | nil => exact absurd rfl hne
  | cons name names ih =>
      obtain ⟨hname, hnames⟩ := List.forall_mem_cons.mp h
      rw [List.foldl_cons]
      by_cases hmore : names = []
      · rw [hmore, below, List.intercalate_singleton, List.foldl_nil, join_eq]
      · rw [ih hmore hnames, below, below, separator_join hname, join_eq,
          List.intercalate_cons_of_ne_nil hmore]
        simp only [List.append_assoc]

end Path

/-- A text can be read back from its bytes. -/
theorem Text.bytes_injective {a b : Text} (h : a.bytes = b.bytes) : a = b := by
  rw [← Path.shown_bytes a, h, Path.shown_bytes]

end OrderOfGrowth
