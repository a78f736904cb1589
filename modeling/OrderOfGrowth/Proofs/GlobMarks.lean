import OrderOfGrowth.Glob.Marks

/-! # Marks as divisions of a path

    A place of a path divides it into a front and a back.  `Marks.Between` says that the place
    between the two is marked, and each operation on marks is described by what it does to the
    divisions:

    * `between_across` — one byte moves from the back to the front;
    * `between_onward` — any bytes move from the back to the front;
    * `between_stayOrBehindSlash` — nothing moves, or something that ends with a slash.

    So a row of tokens accepts a path just when the path can be cut into parts for its tokens.  For
    a name between two double stars the parts are some directories, the name, a slash and whatever
    is below (`rowAccepts_anywhere_iff`). -/

namespace OrderOfGrowth.Glob

namespace Marks

/-- The path has these two parts, and the place between them is marked. -/
def Between (path : Bytes) (m : Marks) (front back : Bytes) : Prop :=
  path = front ++ back ∧ m[front.length]? = some true

/-! ## Lengths -/

theorem length_first (path : Bytes) : (first path).length = path.length + 1 := by
  rw [first, List.length_cons, List.length_map]

theorem length_across (test : UInt8 → Bool) {path : Bytes} {m : Marks}
    (h : m.length = path.length + 1) : (across test path m).length = path.length + 1 := by
  rw [across, List.length_cons, List.length_zipWith, h]
  omega

theorem length_onward (m : Marks) : (onward m).length = m.length := by
  rw [onward, List.length_append, List.length_map, ← List.length_append,
    List.takeWhile_append_dropWhile]

/-! ## One operation -/

section

variable {path : Bytes} {m n : Marks} {front back : Bytes}

theorem between_first : Between path (first path) front back ↔ front = [] ∧ back = path := by
  cases front with
  | nil => simp [Between, first, eq_comm]
  | cons b front =>
      -- behind the first byte there is no mark
      refine iff_of_false (fun h => ?_) (fun h => nomatch h.1)
      have hmark : (path.map fun _ => false)[front.length]? = some true := h.2
      rw [List.getElem?_map, Option.map_eq_some_iff] at hmark
      obtain ⟨_, _, hfalse⟩ := hmark
      exact nomatch hfalse

/-- One byte moves from the back to the front. -/
theorem between_across (test : UInt8 → Bool) :
    Between path (across test path m) front back ↔
      ∃ front' b, front = front' ++ [b] ∧ test b = true ∧ Between path m front' (b :: back) := by
  rcases List.eq_nil_or_concat front with rfl | ⟨front', b, rfl⟩
  · simp [Between, across]
  · rw [List.concat_eq_append]
    have hzip : path = front' ++ [b] ++ back →
        ((across test path m)[(front' ++ [b]).length]? = some true ↔
          test b = true ∧ m[front'.length]? = some true) := by
      rintro rfl
      rw [across, List.length_append, List.length_singleton, List.getElem?_cons_succ,
        List.getElem?_zipWith]
      cases m[front'.length]? <;> simp [and_comm]
    constructor
    · rintro ⟨hpath, hmark⟩
      obtain ⟨htest, hmark⟩ := (hzip hpath).mp hmark
      exact ⟨front', b, rfl, htest, by simpa using hpath, hmark⟩
    · rintro ⟨front'', b', heq, htest, hpath, hmark⟩
      obtain ⟨rfl, hlast⟩ := List.append_inj' heq rfl
      obtain rfl : b = b' := List.singleton_inj.mp hlast
      have hpath' : path = front' ++ [b] ++ back := by simpa using hpath
      exact ⟨hpath', (hzip hpath').mpr ⟨htest, hmark⟩⟩

/-- A place is marked if the place itself or one before it was. -/
theorem getElem?_onward (i : Nat) (m : Marks) :
    (onward m)[i]? = some true ↔ i < m.length ∧ ∃ j ≤ i, m[j]? = some true := by
  induction m generalizing i with
  | nil => simp [onward]
  | cons here m ih =>
      cases here with
      | true =>
          have honward : onward (true :: m) = (true :: m).map fun _ => true := rfl
          rw [honward, List.getElem?_map, Option.map_eq_some_iff]
          constructor
          · rintro ⟨b, hb, -⟩
            exact ⟨(List.getElem?_eq_some_iff.mp hb).1, 0, Nat.zero_le i, rfl⟩
          · rintro ⟨hi, -⟩
            exact ⟨_, List.getElem?_eq_getElem hi, rfl⟩
      | false =>
          have honward : onward (false :: m) = false :: onward m := rfl
          rw [honward]
          cases i with
          | zero => simp
          | succ i =>
              rw [List.getElem?_cons_succ, ih, List.length_cons, Nat.succ_lt_succ_iff]
              refine and_congr_right fun _ => ?_
              constructor
              · rintro ⟨j, hj, hmark⟩
                exact ⟨j + 1, Nat.succ_le_succ hj, hmark⟩
              · rintro ⟨_ | j, hj, hmark⟩
                · exact nomatch hmark
                · exact ⟨j, Nat.le_of_succ_le_succ hj, hmark⟩

/-- Any bytes move from the back to the front. -/
theorem between_onward (hm : m.length = path.length + 1) :
    Between path (onward m) front back ↔
      ∃ front' mid, front = front' ++ mid ∧ Between path m front' (mid ++ back) := by
  rw [Between, getElem?_onward]
  constructor
  · rintro ⟨hpath, -, j, hj, hmark⟩
    refine ⟨front.take j, front.drop j, (List.take_append_drop j front).symm, ?_, ?_⟩
    · rw [← List.append_assoc, List.take_append_drop]
      exact hpath
    · rwa [List.length_take, Nat.min_eq_left hj]
  · rintro ⟨front', mid, rfl, hpath, hmark⟩
    refine ⟨by rwa [List.append_assoc], ?_, front'.length, ?_, hmark⟩
    · rw [hm, hpath, List.length_append, List.length_append, List.length_append]
      omega
    · rw [List.length_append]
      exact Nat.le_add_right _ _

theorem between_union (hn : n.length = m.length) :
    Between path (union m n) front back ↔
      Between path m front back ∨ Between path n front back := by
  have hzip : (union m n)[front.length]? = some true ↔
      m[front.length]? = some true ∨ n[front.length]? = some true := by
    rw [union, List.getElem?_zipWith]
    by_cases h : front.length < m.length
    · rw [List.getElem?_eq_getElem h, List.getElem?_eq_getElem (hn ▸ h)]
      simp
    · rw [List.getElem?_eq_none (Nat.le_of_not_lt h), List.getElem?_eq_none (by omega)]
      simp
  rw [Between, Between, Between, hzip, and_or_left]

theorem between_acrossSlash :
    Between path (acrossSlash path m) front back ↔
      ∃ front', front = front' ++ [slash] ∧ Between path m front' (slash :: back) := by
  rw [acrossSlash, between_across]
  constructor
  · rintro ⟨front', b, rfl, hb, hbetween⟩
    obtain rfl := beq_iff_eq.mp hb
    exact ⟨front', rfl, hbetween⟩
  · rintro ⟨front', rfl, hbetween⟩
    exact ⟨front', slash, rfl, beq_self_eq_true slash, hbetween⟩

/-- Nothing moves from the back to the front, or something that ends with a slash. -/
theorem between_stayOrBehindSlash (hm : m.length = path.length + 1) :
    Between path (stayOrBehindSlash path m) front back ↔
      Between path m front back ∨
        ∃ front' mid, front = front' ++ (mid ++ [slash]) ∧
          Between path m front' (mid ++ slash :: back) := by
  have hlength : (acrossSlash path (onward m)).length = m.length := by
    rw [acrossSlash, length_across _ (by rw [length_onward, hm]), hm]
  rw [stayOrBehindSlash, between_union hlength, between_acrossSlash]
  refine or_congr_right ?_
  constructor
  · rintro ⟨front', rfl, hbetween⟩
    obtain ⟨front'', mid, rfl, hmoved⟩ := (between_onward hm).mp hbetween
    exact ⟨front'', mid, List.append_assoc _ _ _, hmoved⟩
  · rintro ⟨front', mid, rfl, hbetween⟩
    refine ⟨front' ++ mid, (List.append_assoc _ _ _).symm, ?_⟩
    exact (between_onward hm).mpr ⟨front', mid, rfl, hbetween⟩

/-- The last place is the one behind the whole path. -/
theorem reachesEnd_iff (hm : m.length = path.length + 1) :
    reachesEnd m = true ↔ Between path m path [] := by
  rw [reachesEnd, beq_iff_eq, List.getLast?_eq_getElem?, hm, Between, List.append_nil]
  simp

end

/-! ## Literals -/

/-- Marks move over the given bytes. -/
def acrossAll (path bytes : Bytes) (m : Marks) : Marks :=
  bytes.foldl (fun m b => across (· == b) path m) m

theorem length_acrossAll {path : Bytes} (bytes : Bytes) {m : Marks}
    (h : m.length = path.length + 1) : (acrossAll path bytes m).length = path.length + 1 := by
  induction bytes generalizing m with
  | nil => exact h
  | cons b bytes ih => exact ih (length_across _ h)

/-- The given bytes move from the back to the front. -/
theorem between_acrossAll {path bytes front back : Bytes} {m : Marks} :
    Between path (acrossAll path bytes m) front back ↔
      ∃ front', front = front' ++ bytes ∧ Between path m front' (bytes ++ back) := by
  induction bytes generalizing m with
  | nil => simp [acrossAll]
  | cons b bytes ih =>
      rw [show acrossAll path (b :: bytes) m
        = acrossAll path bytes (across (· == b) path m) from rfl, ih]
      constructor
      · rintro ⟨front', rfl, hbetween⟩
        obtain ⟨front'', b', rfl, hb, hmoved⟩ := (between_across _).mp hbetween
        obtain rfl := beq_iff_eq.mp hb
        exact ⟨front'', by simp, hmoved⟩
      · rintro ⟨front', rfl, hbetween⟩
        refine ⟨front' ++ [b], by simp, (between_across _).mpr ?_⟩
        exact ⟨front', b, rfl, beq_self_eq_true b, hbetween⟩

end Marks

/-- Literals that spell a text move the marks over its bytes. -/
theorem passRow_literals (path : Bytes) (name : Text) (row : List Token) (m : Marks) :
    passRow path (name.map .literal ++ row) m
      = passRow path row (Marks.acrossAll path name.bytes m) := by
  induction name generalizing m with
  | nil => rfl
  | cons c name ih =>
      have hbytes : Text.bytes (c :: name) = String.utf8EncodeChar c ++ Text.bytes name := rfl
      rw [List.map_cons, List.cons_append, passRow, ih, hbytes, Marks.acrossAll, Marks.acrossAll,
        List.foldl_append]
      rfl

/-! ## A name between double stars -/

/-- The tokens for a name as a directory anywhere on a path. -/
def anywhere (name : Text) : List Token := .leading :: (name.map .literal ++ [.trailing])

/-- A name between double stars accepts a path just when the name stands in it with a slash behind
    it, at the start of the path or behind a slash. -/
theorem rowAccepts_anywhere_iff (name : Text) (path : Bytes) :
    rowAccepts (anywhere name) path = true ↔
      ∃ front back, path = front ++ (name.bytes ++ slash :: back) ∧
        (front = [] ∨ ∃ outer, front = outer ++ [slash]) := by
  have hfirst := Marks.length_first path
  have hleading : (Marks.stayOrBehindSlash path (Marks.first path)).length = path.length + 1 := by
    rw [Marks.stayOrBehindSlash, Marks.union, List.length_zipWith, Marks.acrossSlash,
      Marks.length_across _ (by rw [Marks.length_onward, hfirst]), hfirst, Nat.min_self]
  have hname := Marks.length_acrossAll name.bytes hleading
  have hslash : (Marks.acrossSlash path (Marks.acrossAll path name.bytes
      (Marks.stayOrBehindSlash path (Marks.first path)))).length = path.length + 1 :=
    Marks.length_across _ hname
  rw [rowAccepts, anywhere, passRow, passRow_literals, passRow, passRow, Token.pass, Token.pass,
    Marks.reachesEnd_iff (by rw [Marks.length_onward, hslash]), Marks.between_onward hslash]
  constructor
  · rintro ⟨_, below, hpath, hbelow⟩
    obtain ⟨_, rfl, hname⟩ := Marks.between_acrossSlash.mp hbelow
    obtain ⟨front, rfl, hfront⟩ := Marks.between_acrossAll.mp hname
    refine ⟨front, below, by simpa using hpath, ?_⟩
    rcases (Marks.between_stayOrBehindSlash hfirst).mp hfront with hstay | ⟨_, outer, rfl, hb⟩
    · exact .inl (Marks.between_first.mp hstay).1
    · obtain ⟨rfl, -⟩ := Marks.between_first.mp hb
      exact .inr ⟨outer, rfl⟩
  · rintro ⟨front, below, hpath, hfront⟩
    refine ⟨front ++ name.bytes ++ [slash], below, by simpa using hpath, ?_⟩
    refine Marks.between_acrossSlash.mpr ⟨front ++ name.bytes, rfl, ?_⟩
    refine Marks.between_acrossAll.mpr ⟨front, rfl, ?_⟩
    refine (Marks.between_stayOrBehindSlash hfirst).mpr ?_
    rcases hfront with rfl | ⟨outer, rfl⟩
    · exact .inl (Marks.between_first.mpr ⟨rfl, by simpa using hpath.symm⟩)
    · refine .inr ⟨[], outer, rfl, Marks.between_first.mpr ⟨rfl, ?_⟩⟩
      simpa using hpath.symm

end OrderOfGrowth.Glob
