import OrderOfGrowth.Text.Blank

/-! # Lines and their cores

    A text is its lines with a line feed between each two of them.  The core of a line is what is
    left of it when its blanks at both ends go; the cores of a text are those of its lines, less the
    empty ones.  Two views of a text depend on its cores alone:

    * whether a solid word, one that neither starts nor ends with a blank and has no line feed,
      stands in it (`has_iff_exists_core`): a solid word lies within one line, and trimming does not
      touch it;
    * the text without any of its blanks (`filter_eq_flatMap_cores`). -/

namespace OrderOfGrowth

namespace Text

/-! ## Lines -/

/-- What holds of every list without the separator, and still holds when such a list and the
    separator are put before a list that has it, holds of every list. -/
@[elab_as_elim]
theorem pieceInduction {α : Type} (sep : α) {motive : List α → Prop}
    (last : ∀ piece : List α, sep ∉ piece → motive piece)
    (more : ∀ piece rest : List α, sep ∉ piece → motive rest → motive (piece ++ sep :: rest))
    (t : List α) : motive t := by
  by_cases h : sep ∈ t
  · obtain ⟨piece, rest, heq, hpiece⟩ := List.eq_append_cons_of_mem h
    have hlt : rest.length < t.length := by
      rw [heq, List.length_append, List.length_cons]
      omega
    rw [heq]
    exact more piece rest hpiece (pieceInduction sep last more rest)
  · exact last t h
termination_by t.length

/-- The first separator divides a list in one way only. -/
theorem append_cons_inj {α : Type} [DecidableEq α] {sep : α} {a b x y : List α} (ha : sep ∉ a)
    (hb : sep ∉ b) (h : a ++ sep :: x = b ++ sep :: y) : a = b ∧ x = y := by
  have hsplit := congrArg (List.splitOn sep) h
  rw [List.splitOn_append_cons_self_of_not_mem ha,
    List.splitOn_append_cons_self_of_not_mem hb] at hsplit
  obtain ⟨rfl, -⟩ := List.cons.inj hsplit
  exact ⟨rfl, (List.cons.inj (List.append_cancel_left h)).2⟩

/-- What holds of every line, and still holds when a line is put before a text that has it, holds of
    every text. -/
@[elab_as_elim]
theorem lineInduction {motive : Text → Prop}
    (last : ∀ line : Text, '\n' ∉ line → motive line)
    (more : ∀ line rest : Text, '\n' ∉ line → motive rest → motive (line ++ '\n' :: rest))
    (t : Text) : motive t :=
  pieceInduction '\n' last more t

/-- No line has a line feed. -/
theorem not_mem_of_mem_splitOn {t line : Text} (h : line ∈ t.splitOn '\n') : '\n' ∉ line := by
  induction t using lineInduction with
  | last t ht =>
      rw [List.splitOn_eq_singleton ht, List.mem_singleton] at h
      rw [h]
      exact ht
  | more first rest hfirst ih =>
      rw [List.splitOn_append_cons_self_of_not_mem hfirst] at h
      rcases List.mem_cons.mp h with rfl | h
      · exact hfirst
      · exact ih h

/-- The first lines of a text, put together again, are split as before. -/
theorem splitOn_intercalate_take (t : Text) {n : Nat} (hn : 0 < n) :
    (['\n'].intercalate ((t.splitOn '\n').take n)).splitOn '\n' = (t.splitOn '\n').take n := by
  refine List.splitOn_intercalate '\n' ?_ ?_
  · intro line hline
    exact not_mem_of_mem_splitOn (List.mem_of_mem_take hline)
  · intro hnil
    rcases List.take_eq_nil_iff.mp hnil with h0 | h0
    · omega
    · exact List.splitOn_ne_nil _ _ h0

/-- The lines of two texts with a line feed between them. -/
theorem splitOn_append_newline (a b : Text) :
    (a ++ '\n' :: b).splitOn '\n' = a.splitOn '\n' ++ b.splitOn '\n' := by
  induction a using lineInduction with
  | last line hline =>
      rw [List.splitOn_append_cons_self_of_not_mem hline, List.splitOn_eq_singleton hline]
      rfl
  | more line rest hline ih =>
      rw [List.append_assoc, List.cons_append, List.splitOn_append_cons_self_of_not_mem hline, ih,
        List.splitOn_append_cons_self_of_not_mem hline]
      rfl

/-! ## Words in a text -/

/-- A text has another if that is a part of it. -/
theorem has_eq_true_iff (needle t : Text) : has needle t = true ↔ needle <:+: t := by
  induction t with
  | nil => rw [has, List.isEmpty_iff, List.infix_nil]
  | cons c cs ih =>
      rw [has, Bool.or_eq_true, ih, List.isPrefixOf_iff_prefix, List.infix_cons_iff]

/-- A word without a line feed stands on one side of it. -/
theorem infix_append_newline_iff {needle line rest : Text} (h : '\n' ∉ needle) :
    needle <:+: line ++ '\n' :: rest ↔ needle <:+: line ∨ needle <:+: rest := by
  -- a start of what follows the line is empty, or has the line feed
  have hstart : ∀ part : Text, '\n' ∉ part → part <+: '\n' :: rest → part = [] := by
    intro part hpart hpre
    cases part with
    | nil => rfl
    | cons c cs =>
        obtain ⟨rfl, -⟩ := List.cons_prefix_cons.mp hpre
        exact absurd List.mem_cons_self hpart
  constructor
  · intro hin
    rcases List.infix_append_iff.mp hin with hl | hr | ⟨front, back, rfl, hfront, hback⟩
    · exact Or.inl hl
    · rcases List.infix_cons_iff.mp hr with hpre | hr
      · rw [hstart needle h hpre]
        exact Or.inl (List.nil_infix)
      · exact Or.inr hr
    · have hnil := hstart back (fun hmem => h (List.mem_append_right front hmem)) hback
      rw [hnil, List.append_nil]
      exact Or.inl hfront.isInfix
  · rintro (hl | hr)
    · exact hl.trans (List.prefix_append _ _).isInfix
    · exact hr.trans ((List.suffix_cons '\n' rest).isInfix.trans (List.suffix_append _ _).isInfix)

/-- A word without a line feed lies within one line. -/
theorem infix_iff_exists_line {needle : Text} (h : '\n' ∉ needle) (t : Text) :
    needle <:+: t ↔ ∃ line ∈ t.splitOn '\n', needle <:+: line := by
  induction t using lineInduction with
  | last line hline =>
      rw [List.splitOn_eq_singleton hline]
      simp
  | more line rest hline ih =>
      rw [infix_append_newline_iff h, ih, List.splitOn_append_cons_self_of_not_mem hline]
      simp only [List.mem_cons, or_and_right, exists_or, exists_eq_left]

/-- A line that others follow stands before a line feed, and these are the lines behind it. -/
theorem exists_of_splitOn_eq {t line : Text} {before after : List Text} (hafter : after ≠ [])
    (h : t.splitOn '\n' = before ++ line :: after) :
    ∃ front rest, t = front ++ (line ++ '\n' :: rest) ∧ rest.splitOn '\n' = after := by
  induction t using lineInduction generalizing before with
  | last t ht =>
      rw [List.splitOn_eq_singleton ht, List.singleton_eq_append_iff] at h
      rcases h with ⟨-, h⟩ | ⟨-, h⟩
      · exact absurd (List.cons.inj h).2 hafter
      · exact nomatch h
  | more first rest hfirst ih =>
      rw [List.splitOn_append_cons_self_of_not_mem hfirst] at h
      cases before with
      | nil =>
          obtain ⟨rfl, hrest⟩ := List.cons.inj h
          exact ⟨[], rest, rfl, hrest⟩
      | cons b before =>
          obtain ⟨front, rest', rfl, hrest⟩ := ih (List.cons.inj h).2
          refine ⟨first ++ '\n' :: front, rest', ?_, hrest⟩
          rw [List.append_assoc, List.cons_append]

/-! ## Trimming -/

/-- A word that does not start with a blank stays when leading blanks go. -/
theorem infix_dropWhile_iff {c : Char} {cs : Text} (hc : isBlank c = false) (t : Text) :
    c :: cs <:+: t.dropWhile isBlank ↔ c :: cs <:+: t := by
  induction t with
  | nil => rfl
  | cons d ds ih =>
      by_cases hd : isBlank d = true
      · rw [List.dropWhile_cons_of_pos hd, ih, List.infix_cons_iff]
        constructor
        · exact Or.inr
        · rintro (hpre | hin)
          · obtain ⟨rfl, -⟩ := List.cons_prefix_cons.mp hpre
            exact absurd hd (by rw [hc]; exact Bool.false_ne_true)
          · exact hin
      · rw [List.dropWhile_cons_of_neg hd]

/-- A solid text starts and ends with characters that are no blanks, and stays on one line. -/
def isSolid (t : Text) : Bool :=
  t.head?.any (!isBlank ·) && t.reverse.head?.any (!isBlank ·) && !t.contains '\n'

theorem exists_cons_of_head?_any {t : Text} (h : t.head?.any (!isBlank ·) = true) :
    ∃ c cs, t = c :: cs ∧ isBlank c = false := by
  cases t with
  | nil => exact nomatch h
  | cons c cs => exact ⟨c, cs, rfl, by simpa using h⟩

theorem not_mem_of_isSolid {needle : Text} (h : needle.isSolid = true) : '\n' ∉ needle := by
  rw [isSolid, Bool.and_eq_true] at h
  simpa using h.2

/-- A solid word stays when a line is trimmed. -/
theorem infix_trim_iff {needle : Text} (h : needle.isSolid = true) (t : Text) :
    needle <:+: t.trim ↔ needle <:+: t := by
  rw [isSolid, Bool.and_eq_true, Bool.and_eq_true] at h
  obtain ⟨⟨hhead, hlast⟩, -⟩ := h
  -- trimming at the end is trimming the reversed text at the start
  obtain ⟨d, ds, hrev, hd⟩ := exists_cons_of_head?_any hlast
  rw [trim, trimEnd, ← List.reverse_infix, List.reverse_reverse, hrev, infix_dropWhile_iff hd,
    ← hrev, List.reverse_infix]
  obtain ⟨c, cs, rfl, hc⟩ := exists_cons_of_head?_any hhead
  exact infix_dropWhile_iff hc t

/-! ## Cores -/

/-- The lines without blanks at their ends, less the empty ones. -/
def cores (t : Text) : List Text := ((t.splitOn '\n').map trim).filter (!·.isEmpty)

/-- Which solid words a text has depends on its cores alone. -/
theorem has_iff_exists_core {needle : Text} (h : needle.isSolid = true) (t : Text) :
    has needle t = true ↔ ∃ core ∈ t.cores, needle <:+: core := by
  rw [has_eq_true_iff, infix_iff_exists_line (not_mem_of_isSolid h)]
  constructor
  · rintro ⟨line, hline, hin⟩
    rw [← infix_trim_iff h] at hin
    refine ⟨trim line, List.mem_filter.mpr ⟨List.mem_map_of_mem hline, ?_⟩, hin⟩
    -- a solid word is not empty, so neither is the core it stands in
    cases hcore : trim line with
    | cons c cs => rfl
    | nil =>
        rw [hcore, List.infix_nil] at hin
        rw [hin] at h
        exact nomatch h
  · rintro ⟨core, hcore, hin⟩
    obtain ⟨line, hline, rfl⟩ := List.mem_map.mp (List.mem_filter.mp hcore).1
    exact ⟨line, hline, (infix_trim_iff h line).mp hin⟩

/-- Leading blanks are no more than blanks. -/
theorem filter_dropWhile_isBlank (t : Text) :
    (t.dropWhile isBlank).filter (!isBlank ·) = t.filter (!isBlank ·) := by
  induction t with
  | nil => rfl
  | cons c cs ih =>
      by_cases hc : isBlank c = true
      · rw [List.dropWhile_cons_of_pos hc, ih, List.filter_cons_of_neg (by simp [hc])]
      · rw [List.dropWhile_cons_of_neg hc]

/-- Trimming takes away nothing but blanks. -/
theorem filter_trim (t : Text) : t.trim.filter (!isBlank ·) = t.filter (!isBlank ·) := by
  rw [trim, trimEnd, List.filter_reverse, filter_dropWhile_isBlank, ← List.filter_reverse,
    List.reverse_reverse, trimStart, filter_dropWhile_isBlank]

/-- What is read off the cores alone can be read off all lines, if empty cores give nothing. -/
theorem flatMap_cores {α : Type} {f : Text → List α} (hf : f [] = []) (t : Text) :
    t.cores.flatMap f = (t.splitOn '\n').flatMap fun line => f (trim line) := by
  rw [cores]
  induction t.splitOn '\n' with
  | nil => rfl
  | cons line rest ih =>
      rw [List.map_cons, List.flatMap_cons, ← ih]
      cases hcore : trim line with
      | nil => rw [hf]; rfl
      | cons c cs => rfl

/-- A text without its blanks is its cores without theirs, one after the other. -/
theorem filter_eq_flatMap_cores (t : Text) :
    t.filter (!isBlank ·) = t.cores.flatMap (List.filter (!isBlank ·)) := by
  rw [flatMap_cores rfl]
  simp only [filter_trim]
  induction t using lineInduction with
  | last line hline =>
      rw [List.splitOn_eq_singleton hline, List.flatMap_singleton]
  | more line rest hline ih =>
      rw [List.splitOn_append_cons_self_of_not_mem hline, List.flatMap_cons, ← ih,
        List.filter_append, List.filter_cons_of_neg (by decide)]

end Text

end OrderOfGrowth
