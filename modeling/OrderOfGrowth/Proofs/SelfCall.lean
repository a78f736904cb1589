import OrderOfGrowth.Proofs.SecondMention
import OrderOfGrowth.Proofs.Siblings

/-! # Self-calls — which functions can be seen to call themselves

    A function is recursive if a call of its own name is recorded inside it.  Both names come from
    the text, and they are not the same kind of name: a declared name may have any alphanumeric
    character, an underscore or a dollar sign, while the name of a call is read from ASCII letters,
    digits and underscores alone.  In the plainest function that calls itself, the two meet just
    when the declared name has no other characters (`Outline.recursive_selfCalling_iff`):

    * the outline of that text is the function alone, with the leaves of its two lines
      (`Outline.ofSource_selfCalling`);
    * the first line never records its own name, so the second one decides, and there the word in
      front of the parenthesis is the whole name or only its end (`mem_calls_ownCall_iff`). -/

namespace OrderOfGrowth

namespace Text

/-- The line that declares a function of the given name. -/
def declaration (name : Text) : Text := "function ".toList ++ (name ++ "(n) \x7b".toList)

/-- A line that calls the given name. -/
def ownCall (name : Text) : Text := "return ".toList ++ (name ++ "(n - 1);".toList)

/-- A function that does nothing but call itself, on three lines. -/
def selfCalling (name : Text) : Text :=
  ['\n'].intercalate [declaration name, ownCall name, ['\x7d']]

theorem selfCalling_eq_inside (name : Text) :
    selfCalling name = (declaration name).inside (ownCall name) := by
  rw [selfCalling, List.intercalate_cons_cons, List.intercalate_cons_cons,
    List.intercalate_singleton, inside, List.append_assoc, List.append_assoc]
  rfl

end Text

/-! ## Lines that only have leaves -/

namespace Draft

/-- Without open scopes, what is pushed is finished. -/
theorem foldl_push (row finished : List Outline) (ignored : Nat) :
    row.foldl push ⟨finished, [], ignored⟩ = ⟨row.reverse ++ finished, [], ignored⟩ := by
  induction row generalizing finished with
  | nil => rfl
  | cons t row ih =>
      rw [List.foldl_cons, show push ⟨finished, [], ignored⟩ t = ⟨t :: finished, [], ignored⟩ from rfl,
        ih, List.reverse_cons, List.append_assoc]
      rfl

/-- A line that neither opens nor closes a scope leaves its leaves, and nothing else. -/
theorem ofEvents_leaves {t : LineTags} (hloop : t.opensLoop = false)
    (hfunction : t.opensFunction = false) (hcloses : t.closes = false) :
    ofEvents t.events = ⟨t.leaves.reverse, [], 0⟩ := by
  have hevents : t.events
      = (if t.allocates then [Event.allocation] else []) ++ t.calls.map .call := by
    simp [LineTags.events, hloop, hfunction, hcloses]
  rw [ofEvents, hevents, foldl_apply_leaves, empty, foldl_push, List.append_nil]

end Draft

/-- A leaf is its only node. -/
theorem LineTags.nodesOf_leaves (t : LineTags) : Outline.nodesOf t.leaves = t.leaves := by
  have hcalls : ∀ names : List Text,
      Outline.nodesOf (names.map .call) = names.map .call := by
    intro names
    induction names with
    | nil => rfl
    | cons name names ih =>
        rw [List.map_cons, Outline.nodesOf, ih]
        rfl
  rw [leaves, Outline.nodesOf_append, hcalls]
  cases t.allocates <;> rfl

/-- No leaf calls itself. -/
theorem LineTags.callsItself_leaves (t : LineTags) : t.leaves.any Outline.callsItself = false := by
  rw [leaves, List.any_append, List.any_map]
  cases t.allocates <;> simp [Function.comp_def]

/-- The calls among the leaves of a line are its calls. -/
theorem LineTags.call_mem_leaves_iff {t : LineTags} {name : Text} :
    .call name ∈ t.leaves ↔ name ∈ t.calls := by
  rw [leaves, List.mem_append, List.mem_map]
  cases t.allocates <;> simp

/-! ## The two lines -/

theorem paren_not_mem_blank_cons {name : Text} (h : isName name = true) : '(' ∉ ' ' :: name := by
  intro hmem
  rcases List.mem_cons.mp hmem with hblank | hmem
  · exact absurd hblank (by decide)
  · exact not_mem_of_isName h (by decide +kernel) hmem

/-- A name is declared by what stands before the first parenthesis. -/
theorem declaredName?_append_paren {name : Text} (h : isName name = true) (back : Text) :
    declaredName? (' ' :: (name ++ '(' :: back)) = some name := by
  have hfree := paren_not_mem_blank_cons h
  have hup : Text.upTo '(' (' ' :: (name ++ '(' :: back)) = Text.upTo '(' (' ' :: name) := by
    rw [Text.upTo_of_not_mem hfree]
    exact Text.upTo_append_cons hfree back
  have hdeclared := declaredName?_blank_cons h
  rw [declaredName?, ← hup] at hdeclared
  exact hdeclared

section Lines

variable {name : Text} (hname : isName name = true)
include hname

/-- A name stays solid between solid texts. -/
theorem isSolid_append_name {front back : Text} (hhead : front.head?.any (!isBlank ·) = true)
    (hfront : '\n' ∉ front) (hback : back.isSolid = true) :
    (front ++ (name ++ back)).isSolid = true := by
  have hsolid := isSolid_of_isName hname
  have hline := Text.not_mem_of_isSolid hsolid
  rw [Text.isSolid, Bool.and_eq_true, Bool.and_eq_true] at hsolid
  exact Text.isSolid_append hhead hfront (Text.isSolid_append hsolid.1.1 hline hback)

theorem isSolid_declaration : name.declaration.isSolid = true :=
  isSolid_append_name hname (by decide) (by decide) (by decide)

theorem isSolid_ownCall : name.ownCall.isSolid = true :=
  isSolid_append_name hname (by decide) (by decide) (by decide)

theorem LineRules.tags_declaration (tracks : Bool) :
    tags ⟨Keywords.standard, tracks⟩ name.declaration
      = trimmedTags ⟨Keywords.standard, tracks⟩ name.declaration := by
  rw [tags, Text.trim_of_isSolid (isSolid_declaration hname)]

/-- The first line declares the name. -/
theorem LineRules.functionName_declaration (tracks : Bool) :
    (tags ⟨Keywords.standard, tracks⟩ name.declaration).functionName = some name := by
  have hkeyword : functionKeyword? ⟨Keywords.standard, tracks⟩ name.declaration
      = some "function".toList := rfl
  have hrest : name.declaration.drop "function".toList.length
      = ' ' :: (name ++ '(' :: "n) \x7b".toList) := rfl
  rw [tags_declaration hname, trimmedTags]
  simp only [hkeyword, Option.bind_some, hrest, declaredName?_append_paren hname]

/-- The first line opens a function of the name, and nothing else. -/
theorem LineRules.opens_declaration (tracks : Bool) :
    LineRules.Opens ⟨Keywords.standard, tracks⟩ name.declaration (.function (some name)) := by
  refine ⟨Text.not_mem_of_isSolid (isSolid_declaration hname), ?_, ?_⟩
  · rw [LineTags.soleOpener?, functionName_declaration hname, tags_declaration hname]
    rfl
  · rw [tags_declaration hname]
    rfl

theorem LineRules.tags_ownCall (tracks : Bool) :
    tags ⟨Keywords.standard, tracks⟩ name.ownCall
      = trimmedTags ⟨Keywords.standard, tracks⟩ name.ownCall := by
  rw [tags, Text.trim_of_isSolid (isSolid_ownCall hname)]

/-- The second line leaves its leaves, and nothing else. -/
theorem Draft.ofEvents_ownCall (tracks : Bool) :
    ofEvents (LineRules.events ⟨Keywords.standard, tracks⟩ name.ownCall)
      = ⟨(LineRules.tags ⟨Keywords.standard, tracks⟩ name.ownCall).leaves.reverse, [], 0⟩ := by
  have htags := LineRules.tags_ownCall hname tracks
  rw [LineRules.events_line _ (Text.not_mem_of_isSolid (isSolid_ownCall hname))]
  refine ofEvents_leaves ?_ ?_ ?_
  · rw [htags]
    rfl
  · rw [htags]
    rfl
  · rw [htags]
    rfl

/-- The outline of a function that calls itself is the function, with the leaves of both lines. -/
theorem Outline.ofSource_selfCalling (tracks : Bool) :
    ofSource ⟨Keywords.standard, tracks⟩ name.selfCalling
      = .program [.function (some name)
          ((LineRules.tags ⟨Keywords.standard, tracks⟩ name.declaration).leaves ++
            (LineRules.tags ⟨Keywords.standard, tracks⟩ name.ownCall).leaves)] := by
  have hclose : (LineRules.tags ⟨Keywords.standard, tracks⟩ ['\x7d']).events = [.leave] := by
    cases tracks <;> decide
  have hdraft := Draft.ofEvents_ownCall hname tracks
  have hbody : LineRules.Balanced ⟨Keywords.standard, tracks⟩ name.ownCall := by
    rw [LineRules.Balanced, Reading.ofSource, hdraft]
    exact ⟨rfl, rfl⟩
  have hchildren : (ofSource ⟨Keywords.standard, tracks⟩ name.ownCall).children
      = (LineRules.tags ⟨Keywords.standard, tracks⟩ name.ownCall).leaves := by
    rw [ofSource, Reading.ofSource, hdraft, Draft.finish_of_scopes_nil rfl]
    exact List.reverse_reverse _
  rw [Text.selfCalling_eq_inside,
    ofSource_inside hclose (LineRules.opens_declaration hname tracks) hbody, hchildren]
  rfl

/-! ## The two names -/

/-- The word in front of the call's parenthesis is the last one of the name. -/
theorem wordsBefore_ownCall : wordsBefore name.ownCall = [name.lastWord] := by
  have hfree : '(' ∉ "return".toList ++ ' ' :: name := by
    intro hmem
    rcases List.mem_append.mp hmem with hmem | hmem
    · exact absurd hmem (by decide)
    · exact paren_not_mem_blank_cons hname hmem
  have hsolid : ∃ d ∈ ' ' :: name, isBlank d = false := by
    match name, hname with
    | d :: ds, hname =>
        refine ⟨d, List.mem_cons_of_mem _ List.mem_cons_self, ?_⟩
        exact isBlank_eq_false_of_isNameChar (isNameChar_of_mem hname List.mem_cons_self)
  rw [show name.ownCall = ("return".toList ++ ' ' :: name) ++ '(' :: "n - 1);".toList from rfl,
    wordsBefore_append_paren hfree, wordsBefore_of_not_mem (by decide),
    Text.lastWord_append_cons (by decide +kernel) hsolid]

/-- The second line calls the name just when the name can be that of a call. -/
theorem mem_calls_ownCall_iff (hword : name ∉ nonCallWords) :
    name ∈ (LineRules.tags ⟨Keywords.standard, true⟩ name.ownCall).calls ↔
      name.all isCallChar = true := by
  have hcalls : (LineRules.tags ⟨Keywords.standard, true⟩ name.ownCall).calls
      = callNames none name.ownCall := by
    rw [LineRules.tags_ownCall hname]
    rfl
  rw [hcalls, mem_callNames_iff, wordsBefore_ownCall hname, List.mem_singleton]
  constructor
  · rintro ⟨-, hcall, -, -⟩
    exact List.all_eq_true.mpr fun c hc => isCallChar_of_mem hcall hc
  · intro hall
    have hlast : name.lastWord = name := by
      have hself : Text.lastWord (name ++ []) = name := by
        refine Text.lastWord_append_blanks (fun c hc => ?_) nofun
        exact isWordChar_of_isCallChar (List.all_eq_true.mp hall c hc)
      rwa [List.append_nil] at hself
    have hcall : isCallName name = true := by
      match name, hname with
      | c :: cs, hname =>
          rw [isName, Bool.and_eq_true] at hname
          rw [isCallName, hall, hname.2]
          rfl
    exact ⟨hlast.symm, hcall, hword, Option.some_ne_none name⟩

end Lines

/-- A program that is one function with nothing but leaves in it is recursive just when one of them
    calls the function. -/
theorem Outline.recursive_tally_function {name : Text} {body : List Outline}
    (h : (nodesOf body).any callsItself = false) :
    (program [function (some name) body]).tally.recursive = true ↔ .call name ∈ body := by
  rw [recursive_tally]
  simp only [nodes, nodesOf, List.append_nil, List.any_cons, h, Bool.or_false, callsItself,
    Bool.false_or]
  rw [← show (function (some name) body).callsItself = Tally.callsItself (some name) body from rfl,
    callsItself_iff]
  constructor
  · rintro ⟨other, row, heq, hmem⟩
    obtain ⟨hname, rfl⟩ := Outline.function.inj heq
    rwa [Option.some.inj hname]
  · intro hmem
    exact ⟨name, body, rfl, hmem⟩

/-- A dollar sign, or a letter that is not ASCII, can stand in a declared name and not in a call, so
    these functions call themselves and are not seen to. -/
theorem Outline.not_recursive_selfCalling :
    let dollar := "$walk".toList
    let umlaut := "größe".toList
    ∀ name ∈ [dollar, umlaut],
      isName name = true ∧ name ∉ nonCallWords ∧
      (ofSource ⟨Keywords.standard, true⟩ (Text.selfCalling name)).estimate.tally.recursive
        = false := by
  intro dollar umlaut
  have hdollar : (ofSource ⟨Keywords.standard, true⟩
      (Text.selfCalling dollar)).tally.recursive = false := by
    rw [recursive_tally]
    decide +kernel
  have humlaut : (ofSource ⟨Keywords.standard, true⟩
      (Text.selfCalling umlaut)).tally.recursive = false := by
    rw [recursive_tally]
    decide +kernel
  refine List.forall_mem_cons.mpr ⟨⟨by decide +kernel, by decide, hdollar⟩, ?_⟩
  exact List.forall_mem_singleton.mpr ⟨by decide +kernel, by decide, humlaut⟩

/-- **Which functions can be seen to call themselves.**  For every name that can be declared and is
    no word that is never called, the function of that name which does nothing but call itself is
    the outline of its text, under its name.  It is recursive just when the name has no characters
    but ASCII letters, digits and underscores, and then its best case and its space are
    logarithmic. -/
theorem Outline.recursive_selfCalling_iff (name : Text) (hname : isName name = true)
    (hword : name ∉ nonCallWords) :
    let outline := ofSource ⟨Keywords.standard, true⟩ name.selfCalling
    (∃ body, outline = .program [.function (some name) body]) ∧
    (outline.estimate.tally.recursive = true ↔ name.all isCallChar = true) ∧
    (name.all isCallChar = true →
      outline.estimate.time.best = .logarithmic ∧ outline.estimate.space = .logarithmic) := by
  intro outline
  have houtline := ofSource_selfCalling hname true
  have hleaves : (nodesOf ((LineRules.tags ⟨Keywords.standard, true⟩ name.declaration).leaves ++
      (LineRules.tags ⟨Keywords.standard, true⟩ name.ownCall).leaves)).any callsItself = false := by
    rw [nodesOf_append, LineTags.nodesOf_leaves, LineTags.nodesOf_leaves, List.any_append,
      LineTags.callsItself_leaves, LineTags.callsItself_leaves]
    rfl
  -- the first line declares the name, so it does not call it
  have hfirst := LineRules.not_mem_calls_of_functionName
    (LineRules.functionName_declaration hname true)
  have hrecursive : outline.tally.recursive = true ↔ name.all isCallChar = true := by
    rw [show outline = _ from houtline, recursive_tally_function hleaves, List.mem_append,
      LineTags.call_mem_leaves_iff, LineTags.call_mem_leaves_iff,
      mem_calls_ownCall_iff hname hword]
    exact or_iff_right hfirst
  refine ⟨⟨_, houtline⟩, hrecursive, ?_⟩
  intro hall
  show outline.tally.time.best = .logarithmic ∧ outline.tally.space = .logarithmic
  rw [Tally.time, Tally.space, hrecursive.mpr hall]
  exact ⟨rfl, rfl⟩

/-- A name that holds a word which is never called, but is none itself. -/
theorem Outline.recursive_selfCalling_iff_underscore :
    let name := "_function2".toList
    let outline := ofSource ⟨Keywords.standard, true⟩ (Text.selfCalling name)
    isName name = true ∧ name ∉ nonCallWords ∧ name.all isCallChar = true ∧
    (∃ body, outline = .program [.function (some name) body]) ∧
    outline.estimate.tally.recursive = true ∧
    outline.estimate.time.best = .logarithmic ∧ outline.estimate.space = .logarithmic := by
  intro name outline
  have hname : isName name = true := by decide +kernel
  have hword : name ∉ nonCallWords := by decide
  have hall : name.all isCallChar = true := by decide
  obtain ⟨hbody, hrecursive, hlabels⟩ := recursive_selfCalling_iff name hname hword
  exact ⟨hname, hword, hall, hbody, hrecursive.mpr hall, hlabels hall⟩

end OrderOfGrowth
