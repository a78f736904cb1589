import OrderOfGrowth.Proofs.PartialRecords
import OrderOfGrowth.Settings.Codec

/-! # Partial settings — what a settings file leaves out is standard

    Settings and keyword tables are both read field by field, so each is a split record, and a text
    that holds some of the fields is read as these fields with standard values elsewhere.  The
    keyword tables in a settings file may be partial themselves. -/

namespace OrderOfGrowth

open Json (Form Reads Entry)

namespace Keywords

/-- The fields of keyword tables. -/
inductive Part where
  | loops
  | functions
  | allocations
deriving DecidableEq

namespace Part

/-- All fields, in their own order. -/
def all : List Part := [loops, functions, allocations]

/-- The name of a field. -/
def key : Part → Text
  | loops => "loop_prefixes".toList
  | functions => "function_prefixes".toList
  | allocations => "allocation_markers".toList

/-- The field of the record. -/
def field : Part → Json.Field Gaps
  | loops => record.fields.get ⟨0, by decide⟩
  | functions => record.fields.get ⟨1, by decide⟩
  | allocations => record.fields.get ⟨2, by decide⟩

end Part

/-- The form of each table: a list of words. -/
def form (k : Keywords) : Part → Form
  | .loops => .list (k.loops.map .text)
  | .functions => .list (k.functions.map .text)
  | .allocations => .list (k.allocations.map .text)

/-- Some of the tables, with the standard ones elsewhere. -/
def only (k : Keywords) (ps : List Part) : Keywords where
  loops := if .loops ∈ ps then k.loops else standard.loops
  functions := if .functions ∈ ps then k.functions else standard.functions
  allocations := if .allocations ∈ ps then k.allocations else standard.allocations

/-- Some of the tables, with gaps elsewhere. -/
def filled (k : Keywords) (ps : List Part) : Gaps where
  loops := if .loops ∈ ps then some k.loops else none
  functions := if .functions ∈ ps then some k.functions else none
  allocations := if .allocations ∈ ps then some k.allocations else none

theorem reads_field (k : Keywords) (ps : List Part) (p : Part) :
    Reads (p.field.read (k.filled ps)) (k.form p) (k.filled (ps ++ [p])) := by
  cases p with
  | loops =>
      refine Json.reads_map (Json.reads_list Json.reads_text k.loops)
        (fun a => { k.filled ps with loops := some a }) ?_
      simp [filled]
  | functions =>
      refine Json.reads_map (Json.reads_list Json.reads_text k.functions)
        (fun a => { k.filled ps with functions := some a }) ?_
      simp [filled]
  | allocations =>
      refine Json.reads_map (Json.reads_list Json.reads_text k.allocations)
        (fun a => { k.filled ps with allocations := some a }) ?_
      simp [filled]

/-- Keyword tables, table by table. -/
def split (k : Keywords) : record.Split Part where
  all := Part.all
  key := Part.key
  field := Part.field
  form := k.form
  filled := k.filled
  only := k.only
  fields_eq := rfl
  find?_key p := by cases p <;> rfl
  filled_nil := rfl
  isSet_filled {ps p} h := by cases p <;> exact congrArg Option.isSome (if_neg h)
  reads_field := k.reads_field
  finish_filled _ ps := by
    refine congrArg Except.ok ?_
    rw [only, Keywords.mk.injEq]
    refine ⟨?_, ?_, ?_⟩ <;> (dsimp only [filled]; split <;> rfl)

/-- The form holds the tables of `k` that are given, so that the others are standard. -/
abbrev Holds (k : Keywords) : List Part → Form → Prop := Form.Holds Part.all Part.key k.form

/-- Keyword tables are read from the tables that a form holds. -/
theorem reads_of_holds {k : Keywords} {ps : List Part} {f : Form} (h : k.Holds ps f) :
    Reads decoder.read f (k.only ps) :=
  k.split.reads_of_holds h

end Keywords

namespace Settings

/-- The fields of settings. -/
inductive Part where
  | name
  | sizes
  | keywords
  | tracksCalls
  | ignore
deriving DecidableEq

namespace Part

/-- All fields, in their own order. -/
def all : List Part := [name, sizes, keywords, tracksCalls, ignore]

/-- The name of a field. -/
def key : Part → Text
  | name => "name".toList
  | sizes => "input_sizes".toList
  | keywords => "keywords".toList
  | tracksCalls => "track_self_calls".toList
  | ignore => "ignore".toList

/-- The field of the record. -/
def field : Part → Json.Field Gaps
  | name => record.fields.get ⟨0, by decide⟩
  | sizes => record.fields.get ⟨1, by decide⟩
  | keywords => record.fields.get ⟨2, by decide⟩
  | tracksCalls => record.fields.get ⟨3, by decide⟩
  | ignore => record.fields.get ⟨4, by decide⟩

end Part

/-- The form of each field; keyword tables have the given one. -/
def form (c : Settings) (keywords : Form) : Part → Form
  | .name => .text c.name
  | .sizes => .list (c.sizes.map .size)
  | .keywords => keywords
  | .tracksCalls => .bool c.tracksCalls
  | .ignore => .list (c.ignore.map .text)

/-- Some of the settings, with the standard ones elsewhere. -/
def only (c : Settings) (ps : List Part) : Settings where
  name := if .name ∈ ps then c.name else standard.name
  sizes := if .sizes ∈ ps then c.sizes else standard.sizes
  keywords := if .keywords ∈ ps then c.keywords else standard.keywords
  tracksCalls := if .tracksCalls ∈ ps then c.tracksCalls else standard.tracksCalls
  ignore := if .ignore ∈ ps then c.ignore else standard.ignore

/-- Some of the settings, with gaps elsewhere. -/
def filled (c : Settings) (ps : List Part) : Gaps where
  name := if .name ∈ ps then some c.name else none
  sizes := if .sizes ∈ ps then some c.sizes else none
  keywords := if .keywords ∈ ps then some c.keywords else none
  tracksCalls := if .tracksCalls ∈ ps then some c.tracksCalls else none
  ignore := if .ignore ∈ ps then some c.ignore else none

theorem reads_field {c : Settings} {g : Form} (hg : Reads Keywords.decoder.read g c.keywords)
    (ps : List Part) (p : Part) :
    Reads (p.field.read (c.filled ps)) (c.form g p) (c.filled (ps ++ [p])) := by
  cases p with
  | name =>
      refine Json.reads_map (Json.reads_text c.name)
        (fun a => { c.filled ps with name := some a }) ?_
      simp [filled]
  | sizes =>
      refine Json.reads_map (Json.reads_list Json.reads_size c.sizes)
        (fun a => { c.filled ps with sizes := some a }) ?_
      simp [filled]
  | keywords =>
      refine Json.reads_map hg (fun a => { c.filled ps with keywords := some a }) ?_
      simp [filled]
  | tracksCalls =>
      refine Json.reads_map (Json.reads_bool c.tracksCalls)
        (fun a => { c.filled ps with tracksCalls := some a }) ?_
      simp [filled]
  | ignore =>
      refine Json.reads_map (Json.reads_list Json.reads_text c.ignore)
        (fun a => { c.filled ps with ignore := some a }) ?_
      simp [filled]

/-- Settings, field by field. -/
def split (c : Settings) {g : Form} (hg : Reads Keywords.decoder.read g c.keywords) :
    record.Split Part where
  all := Part.all
  key := Part.key
  field := Part.field
  form := c.form g
  filled := c.filled
  only := c.only
  fields_eq := rfl
  find?_key p := by cases p <;> rfl
  filled_nil := rfl
  isSet_filled {ps p} h := by cases p <;> exact congrArg Option.isSome (if_neg h)
  reads_field := reads_field hg
  finish_filled _ ps := by
    refine congrArg Except.ok ?_
    rw [only, Settings.mk.injEq]
    refine ⟨?_, ?_, ?_, ?_, ?_⟩ <;> (dsimp only [filled]; split <;> rfl)

/-- The form holds the settings of `c` that are given, with keyword tables in the form `g`. -/
abbrev Holds (c : Settings) (g : Form) : List Part → Form → Prop :=
  Form.Holds Part.all Part.key (c.form g)

/-- Settings are read from the fields that a form holds. -/
theorem reads_of_holds {c : Settings} {g : Form} (hg : Reads Keywords.decoder.read g c.keywords)
    {ps : List Part} {f : Form} (h : c.Holds g ps f) : Reads decoder.read f (c.only ps) :=
  (c.split hg).reads_of_holds h

/-- **Partial settings.** A text that holds some fields is read as these fields with standard values
    elsewhere.  The fields may stand in any order in an object, each once and escaped in any way,
    among members with any other keys and any values; or the first few may stand in their own
    order in a list.  This holds of keyword tables, and of settings whose keyword tables are
    themselves what such a form holds. -/
theorem read_partial :
    (∀ (k : Keywords) (qs : List Keywords.Part) (g : Form), k.Holds qs g →
      ∀ t, g.IsText t → Keywords.decoder.decode t = .ok (k.only qs)) ∧
    ∀ (c : Settings) (k : Keywords) (qs : List Keywords.Part) (g : Form), k.Holds qs g →
      c.keywords = k.only qs → ∀ (ps : List Part) (f : Form), c.Holds g ps f →
        ∀ t, f.IsText t → read t = .ok (c.only ps) := by
  refine ⟨?_, ?_⟩
  · intro k qs g hg t ht
    exact Json.Decoder.decode_of_isText (Keywords.reads_of_holds hg) ht
  · intro c k qs g hg hkeywords ps f hf t ht
    have hreads := Keywords.reads_of_holds hg
    rw [← hkeywords] at hreads
    exact Json.Decoder.decode_of_isText (reads_of_holds hreads hf) ht

/-- A list of one keyword table; and an object with an unknown member, a keyword table with an
    escaped word, and a name, in this order. -/
theorem read_partial_mixed :
    Keywords.decoder.decode "[ [\"a\"] ]".toList
      = .ok { Keywords.standard with loops := ["a".toList] } ∧
    read ("\x7b\"x\": [\x7b\x7d, -1e5]".toList
        ++ (", \"keywords\": \x7b\"loop_prefixes\": [\"\\/\"]\x7d".toList
        ++ ", \"name\": \"a\"\x7d".toList))
      = .ok { standard with
          name := "a".toList
          keywords := { Keywords.standard with loops := ["/".toList] } } := by
  refine ⟨?_, ?_⟩
  · let k : Keywords := ⟨["a".toList], [], []⟩
    have htable : (k.form .loops).Spells " [\"a\"] ]".toList " ]".toList :=
      ⟨'[', _, rfl, rfl, _, _, rfl, ⟨'"', _, rfl, rfl, Json.spellsString_flatMap ['a'] _⟩, rfl⟩
    exact read_partial.1 k [.loops] _ (.list 1) _
      ⟨[], ⟨'[', _, rfl, rfl, _, _, rfl, htable, rfl⟩, rfl⟩
  · let k : Keywords := ⟨["/".toList], [], []⟩
    let c : Settings := { standard with name := "a".toList, keywords := k.only [.loops] }
    let entries : List (Entry Part) := [.unknown "x".toList, .field .keywords, .field .name]
    let tables : List (Entry Keywords.Part) := [.field .loops]
    let g : Form := .object (tables.map (Entry.member Keywords.Part.key k.form))
    have htables : (Entry.fields tables).Nodup := by simp [tables]
    have hentries : (Entry.fields entries).Nodup := by simp [entries]
    -- the texts from behind each member on
    let u : Text := ", \"name\": \"a\"\x7d".toList
    let v : Text := ", \"keywords\": \x7b\"loop_prefixes\": [\"\\/\"]\x7d".toList ++ u
    have hnumber : Json.IsNumber (['-'] ++ (['1'] ++ ([] ++ 'e' :: ([] ++ ['5'])))) :=
      .mk (by decide) ⟨⟨by decide, List.all_eq_true.mp rfl⟩, by decide⟩ .none
        (.mark (.inl rfl) (by decide) ⟨by decide, List.all_eq_true.mp rfl⟩)
    have hunknown : Form.any.Spells (" [\x7b\x7d, -1e5]".toList ++ v) v :=
      ⟨'[', _, rfl, .list rfl (.emptyObject rfl rfl) (.item rfl (.number hnumber rfl rfl)
        (.lastItem rfl))⟩
    have hword : (Form.text "/".toList).Spells ("\"\\/\"]\x7d".toList ++ u) ("]\x7d".toList ++ u) :=
      ⟨'"', _, rfl, rfl, _, .cons (.short (e := '/') (by decide)) .nil, rfl⟩
    have hkeywords : g.Spells (" \x7b\"loop_prefixes\": [\"\\/\"]\x7d".toList ++ u) u :=
      ⟨'\x7b', _, rfl, rfl, _, _, _, _, _, rfl, rfl,
        Json.spellsString_flatMap (Keywords.Part.key .loops) _, rfl,
        ⟨'[', _, rfl, rfl, _, _, rfl, hword, rfl⟩, rfl⟩
    have hname : (c.form g .name).Spells " \"a\"\x7d".toList ['\x7d'] :=
      ⟨'"', _, rfl, rfl, Json.spellsString_flatMap ['a'] _⟩
    have hlast : Form.SpellsMembers [(Part.key .name, c.form g .name)] false u [] :=
      ⟨_, _, _, _, _, rfl, rfl, Json.spellsString_flatMap (Part.key .name) _, rfl, hname, rfl⟩
    have hlater : Form.SpellsMembers [(Part.key .keywords, g), (Part.key .name, c.form g .name)]
        false v [] :=
      ⟨_, _, _, _, _, rfl, rfl, Json.spellsString_flatMap (Part.key .keywords) _, rfl, hkeywords,
        hlast⟩
    have hfresh : ∀ s, Entry.unknown s ∈ entries → ∀ p, Part.key p ≠ s := by
      intro s hs p
      obtain rfl : s = "x".toList := by simpa [entries] using hs
      cases p <;> decide
    refine read_partial.2 c k [.loops] g (.object htables ?_) rfl _ _ (.object hentries hfresh) _
      ⟨[], ⟨'\x7b', _, rfl, rfl, _, _, _, _, _, rfl, rfl, Json.spellsString_flatMap ['x'] _, rfl,
        hunknown, hlater⟩, rfl⟩
    simp [tables]

end Settings

end OrderOfGrowth
