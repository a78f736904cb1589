import OrderOfGrowth.Proofs.Forms

/-! # Partial records — a record is read from the fields that are there

    `Form.Holds` says which forms hold some fields of a record: an object that has each of them
    once, in any order and among members that no field knows, or a list of the first few.  A record
    whose gaps can be filled field by field (`Record.Split`) is read from such a form as what these
    fields make of it.

    Both runs carry the fields that have been filled in: a run over members appends the field of a
    member that has one and passes over the others, and a run over items appends field after
    field. -/

namespace OrderOfGrowth.Json

variable {κ σ α : Type}

/-! ## Forms of a record -/

/-- What an object holds for a record: one of its fields, or something under another key. -/
inductive Entry (κ : Type) where
  | field (p : κ)
  | unknown (key : Text)

namespace Entry

/-- The fields among some entries. -/
def fields (es : List (Entry κ)) : List κ :=
  es.filterMap fun
    | field p => some p
    | unknown _ => none

@[simp] theorem fields_nil : fields ([] : List (Entry κ)) = [] := rfl

@[simp] theorem fields_field (p : κ) (es : List (Entry κ)) :
    fields (field p :: es) = p :: fields es := rfl

@[simp] theorem fields_unknown (key : Text) (es : List (Entry κ)) :
    fields (unknown key :: es) = fields es := rfl

theorem fields_map_field (ps : List κ) : fields (ps.map field) = ps := by
  induction ps with
  | nil => rfl
  | cons p ps ih => rw [List.map_cons, fields_field, ih]

/-- An entry as a member; under another key there may be any value. -/
def member (key : κ → Text) (form : κ → Form) : Entry κ → Text × Form
  | field p => (key p, form p)
  | unknown key => (key, .any)

end Entry

/-- The forms that hold some fields of a record, and nothing else that it knows: an object with
    these fields in any order, or a list of the first of `all` fields. -/
inductive Form.Holds (all : List κ) (key : κ → Text) (form : κ → Form) : List κ → Form → Prop where
  | object {es : List (Entry κ)} : (Entry.fields es).Nodup →
      (∀ k, Entry.unknown k ∈ es → ∀ p, key p ≠ k) →
      Holds all key form (Entry.fields es) (.object (es.map (Entry.member key form)))
  | list (n : Nat) : Holds all key form (all.take n) (.list ((all.take n).map form))

/-- An object may hold all fields, in their own order. -/
theorem Form.holds_all {all : List κ} (h : all.Nodup) (key : κ → Text) (form : κ → Form) :
    Holds all key form all (.object ((all.map .field).map (Entry.member key form))) := by
  have hfields := Entry.fields_map_field all
  have hunknown : ∀ k, Entry.unknown k ∈ all.map .field → ∀ p, key p ≠ k := by simp
  have hobject : Holds all key form (Entry.fields (all.map .field)) _ :=
    .object (by rwa [hfields]) hunknown
  rwa [hfields] at hobject

/-! ## Records field by field -/

/-- A record that is filled in field by field, each from a form of its own. -/
structure Record.Split (r : Record σ α) (κ : Type) where
  /-- The fields in their own order. -/
  all : List κ
  key : κ → Text
  field : κ → Field σ
  form : κ → Form
  /-- The record with some fields filled in. -/
  filled : List κ → σ
  /-- What is made of it. -/
  only : List κ → α
  fields_eq : r.fields = all.map field
  find?_key : ∀ p, r.fields.find? (·.name == key p) = some (field p)
  filled_nil : filled [] = r.blank
  isSet_filled : ∀ {ps : List κ} {p : κ}, p ∉ ps → (field p).isSet (filled ps) = false
  reads_field : ∀ ps p, Reads ((field p).read (filled ps)) (form p) (filled (ps ++ [p]))
  finish_filled : ∀ report ps, r.finish report (filled ps) = .ok (only ps)

namespace Record.Split

variable {r : Record σ α} (s : r.Split κ)

theorem find?_eq_none {k : Text} (h : ∀ p, s.key p ≠ k) :
    r.fields.find? (·.name == k) = none := by
  rw [s.fields_eq, List.find?_eq_none]
  intro f hf hname
  obtain ⟨p, -, rfl⟩ := List.mem_map.mp hf
  have hkey := List.find?_some (s.find?_key p)
  exact h p ((beq_iff_eq.mp hkey).symm.trans (beq_iff_eq.mp hname))

/-- A run over the members of an object. -/
theorem readMembers_of_spells {es : List (Entry κ)} {done : List κ}
    (hdistinct : (done ++ Entry.fields es).Nodup)
    (hunknown : ∀ k, Entry.unknown k ∈ es → ∀ p, s.key p ≠ k) {fuel : Nat} {first : Bool}
    {t rest : Text} (hfuel : es.length < fuel)
    (ht : Form.SpellsMembers (es.map (Entry.member s.key s.form)) first t rest) :
    r.readMembers fuel first (s.filled done) t
      = .ok (s.filled (done ++ Entry.fields es), rest) := by
  induction es generalizing done fuel first t with
  | nil =>
      obtain ⟨fuel, rfl⟩ := Nat.exists_eq_succ_of_ne_zero (Nat.ne_zero_of_lt hfuel)
      rw [readMembers, nextKey_of_closed first ht, Entry.fields_nil, List.append_nil]
      rfl
  | cons e es ih =>
      obtain ⟨fuel, rfl⟩ := Nat.exists_eq_succ_of_ne_zero (Nat.ne_zero_of_lt hfuel)
      have hless : es.length < fuel := Nat.lt_of_succ_lt_succ hfuel
      have hlater := fun k hk => hunknown k (List.mem_cons_of_mem e hk)
      obtain ⟨u, v, w, x, y, hcont, hquote, hkey, hcolon, hvalue, hrest⟩ := ht
      rw [readMembers, nextKey_of_quote hcont hquote]
      dsimp only [bind, Except.bind]
      rw [stringFrom_of_spellsString hkey, List.reverse_nil, List.nil_append]
      dsimp only
      cases e with
      | field p =>
          -- The field is still a gap, since no other entry has it.
          have hgap : p ∉ done := by
            intro hp
            rw [Entry.fields_field, List.nodup_append] at hdistinct
            exact hdistinct.2.2 p hp p List.mem_cons_self rfl
          rw [Entry.fields_field, ← List.singleton_append, ← List.append_assoc] at hdistinct ⊢
          dsimp only [Entry.member]
          rw [s.find?_key p]
          dsimp only
          rw [s.isSet_filled hgap, if_neg Bool.false_ne_true, colon_of_skipBlanks hcolon]
          dsimp only
          rw [s.reads_field done p hvalue]
          exact ih hdistinct hlater hless hrest
      | unknown k =>
          rw [Entry.fields_unknown] at hdistinct ⊢
          dsimp only [Entry.member]
          rw [s.find?_eq_none (hunknown k List.mem_cons_self)]
          dsimp only
          rw [colon_of_skipBlanks hcolon]
          dsimp only
          rw [skipValue_of_spells hvalue]
          exact ih hdistinct hlater hless hrest

/-- A run over the items of a list, which ends before the fields do or with them. -/
theorem readItems_of_spells (ps later done : List κ) {first : Bool} {t rest : Text}
    (ht : Form.SpellsItems (ps.map s.form) first t rest) :
    ∃ next, readItems ((ps ++ later).map s.field) first (s.filled done) t
        = .ok (s.filled (done ++ ps), next) ∧
      (next = .closed rest ∨ ∃ w, next = .more w ∧ endList w = .ok rest) := by
  induction ps generalizing done first t with
  | nil =>
      rw [List.nil_append, List.append_nil]
      cases later with
      | nil => exact ⟨_, rfl, .inr ⟨t, rfl, endList_of_closed ht⟩⟩
      | cons p later =>
          refine ⟨.closed rest, ?_, .inl rfl⟩
          rw [List.map_cons, readItems, nextItem_of_closed first ht]
          rfl
  | cons p ps ih =>
      obtain ⟨u, w, hcont, hu, hw⟩ := ht
      have hitem := s.reads_field done p (hu.congr (skipBlanks_skipBlanks u).symm)
      obtain ⟨next, hnext, hend⟩ := ih (done ++ [p]) hw
      rw [List.append_assoc, List.singleton_append] at hnext
      refine ⟨next, ?_, hend⟩
      rw [List.cons_append, List.map_cons, readItems, nextItem_of_spells hcont hu]
      dsimp only [bind, Except.bind]
      rw [hitem]
      exact hnext

/-- A record is read from the fields that a form holds. -/
theorem reads_of_holds {ps : List κ} {f : Form} (h : Form.Holds s.all s.key s.form ps f) :
    Reads r.decoder.read f (s.only ps) := by
  cases h with
  | @object es hdistinct hunknown =>
      rintro t rest ⟨_, u, hu, rfl, hmembers⟩
      have hlength := hmembers.length_lt
      rw [List.length_map] at hlength
      have hrun : r.readMembers (u.length + 1) true (s.filled []) u
          = .ok (s.filled (Entry.fields es), rest) :=
        s.readMembers_of_spells hdistinct hunknown (by omega) hmembers
      rw [s.filled_nil] at hrun
      refine (Decoder.start_of_skipBlanks hu).trans ((if_pos rfl).trans ?_)
      rw [hrun]
      dsimp only [bind, Except.bind]
      rw [s.finish_filled]
      rfl
  | list n =>
      rintro t rest ⟨_, u, hu, rfl, hitems⟩
      obtain ⟨next, hnext, hend⟩ := s.readItems_of_spells (s.all.take n) (s.all.drop n) [] hitems
      rw [List.take_append_drop, ← s.fields_eq, s.filled_nil, List.nil_append] at hnext
      refine (Decoder.start_of_skipBlanks hu).trans ((if_neg (by decide)).trans ?_)
      refine (if_pos rfl).trans ?_
      rw [hnext]
      dsimp only [bind, Except.bind]
      rw [s.finish_filled]
      rcases hend with rfl | ⟨w, rfl, hw⟩
      · rfl
      · dsimp only [ofMismatch]
        rw [hw]
        rfl

end Record.Split

end OrderOfGrowth.Json
