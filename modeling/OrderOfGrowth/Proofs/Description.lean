import Mathlib.Data.List.Nodup
import OrderOfGrowth.CommandLine.Page
import OrderOfGrowth.Proofs.Curves
import OrderOfGrowth.Proofs.Names

/-! # Descriptions — what a description shows

    A description is written as paragraphs, and shown as lines: it is split at its line feeds, every
    line is trimmed, and empty ones are dropped.  Between the two, labels of any length have been
    put into fixed sentences.  Nothing is lost on the way, nor run together:

    * `Text.cores_intercalate` — line feeds between texts divide their lines and add none, however
      many of them there are, so the lines of a description are those of its paragraphs;
    * `Label.isSolid_caption` — a label behind a caption and before its explanation is one line with
      no blank at either end.  It needs that the label itself has no line feed;
    * `Label.described_inj` — a dash follows the label and stands nowhere in it, so the first dash
      shows where it ends.

    Both facts about labels are `Text.IsPlain`, which holds of every label that an estimate or an
    idiom gives rise to (`Tally.isPlain_time`, `Tally.isPlain_space`). -/

namespace OrderOfGrowth

/-! ## Lines of texts -/

namespace Text

theorem cores_append_newline (a b : Text) : (a ++ '\n' :: b).cores = a.cores ++ b.cores := by
  rw [cores, splitOn_append_newline, List.map_append, List.filter_append]
  rfl

/-- Line feeds in front of a text have no lines. -/
theorem cores_newlines_append (n : Nat) (t : Text) :
    cores (List.replicate n '\n' ++ t) = t.cores := by
  induction n with
  | zero => rfl
  | succ n ih =>
      rw [List.replicate_succ, List.cons_append]
      exact (cores_append_newline [] _).trans ih

/-- Line feeds between texts divide their lines, and add none. -/
theorem cores_intercalate (n : Nat) (ts : List Text) :
    cores (List.intercalate (List.replicate (n + 1) '\n') ts) = ts.flatMap cores := by
  induction ts with
  | nil => rfl
  | cons t ts ih =>
      by_cases hts : ts = []
      · rw [hts, List.intercalate_singleton, List.flatMap_singleton]
      · rw [List.intercalate_cons_of_ne_nil hts, List.append_assoc, List.replicate_succ,
          List.cons_append, cores_append_newline, cores_newlines_append, ← List.replicate_succ, ih,
          List.flatMap_cons]

/-- A solid text is its only line. -/
theorem cores_of_isSolid {t : Text} (h : t.isSolid = true) : t.cores = [t] := by
  have hne : t.isEmpty = false := by
    cases t with
    | nil => exact nomatch h
    | cons c cs => rfl
  rw [cores, List.splitOn_eq_singleton (not_mem_of_isSolid h), List.map_singleton,
    trim_of_isSolid h, List.filter_cons_of_pos (by rw [hne]; rfl), List.filter_nil]

theorem flatMap_cores_of_isSolid {ts : List Text} (h : ∀ t ∈ ts, t.isSolid = true) :
    ts.flatMap cores = ts := by
  induction ts with
  | nil => rfl
  | cons t ts ih =>
      obtain ⟨ht, hts⟩ := List.forall_mem_cons.mp h
      rw [List.flatMap_cons, cores_of_isSolid ht, ih hts, List.singleton_append]

/-! ## Plain texts -/

/-- A plain text has neither a line feed nor a dash. -/
def IsPlain (t : Text) : Prop := ∀ c ∈ t, c ≠ '\n' ∧ c ≠ '-'

instance : DecidablePred IsPlain := fun t => List.decidableBAll _ t

theorem IsPlain.append {a b : Text} (ha : a.IsPlain) (hb : b.IsPlain) : (a ++ b).IsPlain :=
  List.forall_mem_append.mpr ⟨ha, hb⟩

theorem isPlain_ofNat (n : Nat) : (Text.ofNat n).IsPlain := by
  intro c hc
  have hdigit : c.isDigit = true := Nat.isDigit_of_mem_toDigits (by decide) (by decide) hc
  constructor
  · rintro rfl
    exact absurd hdigit (by decide)
  · rintro rfl
    exact absurd hdigit (by decide)

end Text

namespace Label

theorem isPlain_of_named {l : Label} (h : l ∈ named) : l.text.IsPlain := by
  have hall : ∀ l ∈ named, l.text.IsPlain := by decide
  exact hall l h

theorem isPlain_power (k : Nat) : (power k).text.IsPlain :=
  ((by decide : Text.IsPlain "O(n^".toList).append (Text.isPlain_ofNat k)).append (by decide)

theorem isPlain_ofLoopDepth (d : Nat) : (ofLoopDepth d).text.IsPlain := by
  rcases ofLoopDepth_cases d with ⟨-, hnamed⟩ | ⟨-, hpower⟩
  · exact isPlain_of_named hnamed
  · rw [hpower]
    exact isPlain_power d

theorem isPlain_withLogFactor {l : Label} (h : l.text.IsPlain) : l.withLogFactor.text.IsPlain :=
  ((by decide : Text.IsPlain "O(".toList).append h).append (by decide)

end Label

theorem Cases.forall_mem_toList {α : Type} {p : α → Prop} {c : Cases α} :
    (∀ a ∈ c.toList, p a) ↔ p c.best ∧ p c.average ∧ p c.worst := by
  simp [toList]

namespace Tally

/-- The time labels of every tally are plain. -/
theorem isPlain_time (t : Tally) : ∀ l ∈ t.time.toList, l.text.IsPlain := by
  have hdepth := Label.isPlain_ofLoopDepth t.deepest
  have hfactor := Label.isPlain_withLogFactor hdepth
  rw [Cases.forall_mem_toList, time]
  split
  · exact ⟨Label.isPlain_of_named (l := .logarithmic) (by decide), hfactor, hfactor⟩
  · exact ⟨hdepth, hdepth, hdepth⟩

/-- The space label of every tally is plain. -/
theorem isPlain_space (t : Tally) : t.space.text.IsPlain := by
  rw [space]
  split
  · exact Label.isPlain_of_named (by decide)
  · split
    · exact Label.isPlain_of_named (by decide)
    · exact Label.isPlain_power _

end Tally

theorem Idioms.isPlain_space (i : Idioms) {l : Label} (h : l.text.IsPlain) :
    (i.space l).text.IsPlain := by
  rw [space]
  split
  · exact Label.isPlain_of_named (by decide)
  · exact h

/-! ## Labels in their lines -/

namespace Label

theorem isSolid_explanation (l : Label) : l.explanation.isSolid = true := by
  rw [explanation]
  split_ifs <;> decide +kernel

/-- A described label behind a caption is one line without blanks at its ends. -/
theorem isSolid_caption {caption : Text} (hhead : caption.head?.any (!isBlank ·) = true)
    (hcaption : '\n' ∉ caption) {l : Label} (hl : l.text.IsPlain) :
    (caption ++ l.described).isSolid = true := by
  have hfront : (caption ++ (l.text ++ " - ".toList)).head?.any (!isBlank ·) = true := by
    obtain ⟨c, cs, rfl, hc⟩ := Text.exists_cons_of_head?_any hhead
    exact hhead
  have hline : '\n' ∉ caption ++ (l.text ++ " - ".toList) := by
    rw [List.mem_append, List.mem_append]
    rintro (hmem | hmem | hmem)
    · exact hcaption hmem
    · exact (hl _ hmem).1 rfl
    · exact absurd hmem (by decide)
  have hsolid := Text.isSolid_append hfront hline l.isSolid_explanation
  rwa [List.append_assoc] at hsolid

/-- The first dash shows where the label ends. -/
theorem described_inj {l m : Label} (hl : l.text.IsPlain) (hm : m.text.IsPlain) :
    l.described = m.described ↔ l = m := by
  constructor
  · intro h
    have hdash : ∀ {k : Label}, k.text.IsPlain → '-' ∉ k.text ++ [' '] := by
      intro k hk hmem
      rcases List.mem_append.mp hmem with hmem | hmem
      · exact (hk _ hmem).2 rfl
      · exact absurd hmem (by decide)
    have hparts : ∀ k : Label, k.described = (k.text ++ [' ']) ++ '-' :: ' ' :: k.explanation := by
      intro k
      rw [described, List.append_assoc, List.append_assoc]
      rfl
    rw [hparts, hparts] at h
    have htext := List.append_cancel_right (Text.append_cons_inj (hdash hl) (hdash hm) h).1
    cases l
    cases m
    exact congrArg Label.mk htext
  · rintro rfl
    rfl

end Label

/-! ## Notes -/

namespace Idioms

/-- For each idiom, whether it was found, and its note. -/
def remarks (i : Idioms) : List (Bool × String) :=
  [(i.createsArray, "Note: Additional space is used for array creation."),
    (i.createsMap, "Note: Hash map/set structures require additional memory."),
    (i.recursive, "Note: Recursive calls add to the space complexity through the call stack.")]

/-- There is a note for each idiom that was found. -/
theorem notes_eq (i : Idioms) : i.notes = (i.remarks.filter (·.1)).map (·.2.toList) := by
  have hfirst : ∀ (found : Bool) (note : String) (rest : List (Bool × String)),
      (((found, note) :: rest).filter (·.1)).map (·.2.toList)
        = (if found then [note.toList] else []) ++ (rest.filter (·.1)).map (·.2.toList) := by
    intro found note rest
    cases found <;> rfl
  simp only [notes, remarks, hfirst, List.filter_nil, List.map_nil, List.append_nil,
    List.append_assoc]

theorem isSolid_notes (i : Idioms) : ∀ note ∈ i.notes, note.isSolid = true := by
  have hall : ∀ remark ∈ i.remarks, Text.isSolid remark.2.toList = true := by
    simp only [remarks, List.forall_mem_cons]
    exact ⟨by decide +kernel, by decide +kernel, by decide +kernel, List.forall_mem_nil _⟩
  intro note hnote
  rw [notes_eq] at hnote
  obtain ⟨remark, hremark, rfl⟩ := List.mem_map.mp hnote
  exact hall remark (List.mem_filter.mp hremark).1

/-- No two idioms have the same note, so a note shows that its own idiom was found. -/
theorem mem_notes_iff {i : Idioms} {found : Bool} {note : String} (h : (found, note) ∈ i.remarks) :
    note.toList ∈ i.notes ↔ found = true := by
  have hnodup : (i.remarks.map (·.2)).Nodup := by
    simp only [remarks, List.map_cons, List.map_nil]
    decide +kernel
  rw [notes_eq, List.mem_map]
  constructor
  · rintro ⟨remark, hremark, hnote⟩
    obtain ⟨hmem, hfound⟩ := List.mem_filter.mp hremark
    obtain rfl := List.inj_on_of_nodup_map hnodup hmem h (String.toList_injective hnote)
    exact hfound
  · rintro rfl
    exact ⟨(true, note), List.mem_filter.mpr ⟨h, rfl⟩, rfl⟩

/-- The notes show which idioms were found. -/
theorem notes_inj {i j : Idioms} : i.notes = j.notes ↔ i = j := by
  constructor
  · intro h
    have hflag : ∀ {found found' : Bool} {note : String}, (found, note) ∈ i.remarks →
        (found', note) ∈ j.remarks → found = found' := by
      intro found found' note hi hj
      rw [Bool.eq_iff_iff, ← mem_notes_iff hi, ← mem_notes_iff hj, h]
    have harray := hflag List.mem_cons_self List.mem_cons_self
    have hmap := hflag (List.mem_cons_of_mem _ List.mem_cons_self)
      (List.mem_cons_of_mem _ List.mem_cons_self)
    have hrecursion := hflag (List.mem_cons_of_mem _ (List.mem_cons_of_mem _ List.mem_cons_self))
      (List.mem_cons_of_mem _ (List.mem_cons_of_mem _ List.mem_cons_self))
    cases i
    cases j
    rw [Idioms.mk.injEq]
    exact ⟨harray, hmap, hrecursion⟩
  · rintro rfl
    rfl

end Idioms

/-! ## Descriptions -/

/-- The lines about plain time labels are solid. -/
theorem TimeLabels.isSolid_lines {time : TimeLabels} (h : ∀ l ∈ time.toList, l.text.IsPlain) :
    ∀ line ∈ TimeLabels.lines time, Text.isSolid line = true := by
  obtain ⟨hbest, haverage, hworst⟩ := Cases.forall_mem_toList.mp h
  simp only [lines, List.forall_mem_cons]
  refine ⟨?_, ?_, ?_, List.forall_mem_nil _⟩
  · exact Label.isSolid_caption (by decide) (by decide) hbest
  · exact Label.isSolid_caption (by decide) (by decide) haverage
  · exact Label.isSolid_caption (by decide) (by decide) hworst

/-- Each paragraph of a description has its lines, and no two share one. -/
theorem descriptionLines_describe {time : TimeLabels} {space : Label}
    (htime : ∀ l ∈ time.toList, l.text.IsPlain) (hspace : space.text.IsPlain) (idioms : Idioms) :
    descriptionLines (describe time space idioms)
      = ["Analysis Results:".toList, "Time Complexity:".toList] ++ TimeLabels.lines time
        ++ ["Space Complexity: ".toList ++ space.described] ++ idioms.notes := by
  have htimes : Text.cores (['\n'].intercalate ("Time Complexity:".toList :: TimeLabels.lines time))
      = "Time Complexity:".toList :: TimeLabels.lines time := by
    rw [show ['\n'] = List.replicate (0 + 1) '\n' from rfl, Text.cores_intercalate]
    refine Text.flatMap_cores_of_isSolid (List.forall_mem_cons.mpr ⟨by decide, ?_⟩)
    exact TimeLabels.isSolid_lines htime
  have hspaceLine : Text.isSolid ("Space Complexity: ".toList ++ space.described) = true :=
    Label.isSolid_caption (by decide) (by decide) hspace
  show Text.cores (describe time space idioms) = _
  rw [describe, show ['\n', '\n'] = List.replicate (1 + 1) '\n' from rfl, Text.cores_intercalate,
    List.flatMap_append, Text.flatMap_cores_of_isSolid idioms.isSolid_notes]
  simp only [List.flatMap_cons, List.flatMap_nil, htimes, Text.cores_of_isSolid hspaceLine,
    Text.cores_of_isSolid (by decide : Text.isSolid "Analysis Results:".toList = true)]
  simp only [List.append_assoc, List.cons_append, List.nil_append, List.append_nil]

/-- A description shows the labels and the idioms that it was made from. -/
theorem describe_inj {time time' : TimeLabels} {space space' : Label} {idioms idioms' : Idioms}
    (htime : ∀ l ∈ time.toList, l.text.IsPlain) (htime' : ∀ l ∈ time'.toList, l.text.IsPlain)
    (hspace : space.text.IsPlain) (hspace' : space'.text.IsPlain) :
    describe time space idioms = describe time' space' idioms' ↔
      time = time' ∧ space = space' ∧ idioms = idioms' := by
  constructor
  · intro h
    have hlines := congrArg descriptionLines h
    rw [descriptionLines_describe htime hspace, descriptionLines_describe htime' hspace'] at hlines
    obtain ⟨hbest, haverage, hworst⟩ := Cases.forall_mem_toList.mp htime
    obtain ⟨hbest', haverage', hworst'⟩ := Cases.forall_mem_toList.mp htime'
    -- line by line, the captions cancel and the labels are read back
    simp only [TimeLabels.lines, List.cons_append, List.nil_append, List.cons.injEq,
      List.append_cancel_left_eq, true_and, Label.described_inj hbest hbest',
      Label.described_inj haverage haverage', Label.described_inj hworst hworst',
      Label.described_inj hspace hspace', Idioms.notes_inj] at hlines
    obtain ⟨hb, ha, hw, hspaces, hidioms⟩ := hlines
    cases time
    cases time'
    rw [Cases.mk.injEq]
    exact ⟨⟨hb, ha, hw⟩, hspaces, hidioms⟩
  · rintro ⟨rfl, rfl, rfl⟩
    rfl

namespace Report

theorem isPlain_time (s : Settings) (source : Text) :
    ∀ l ∈ (ofSource s source).time.toList, l.text.IsPlain :=
  Tally.isPlain_time _

theorem isPlain_space (s : Settings) (source : Text) : (ofSource s source).space.text.IsPlain :=
  Idioms.isPlain_space _ (Tally.isPlain_space _)

end Report

/-- **Descriptions are faithful.**  For all settings and every source text, the lines of the
    description are the two headings, a line for each case from the best to the worst, the line on
    space, and a note for each idiom that the raw text shows, in the order array, map, recursion.
    No line is split, joined to another or dropped.

    Whatever the settings and the texts, two reports have the same description just when they have
    the same time labels, the same space label and the same idioms. -/
theorem Report.description_ofSource (s : Settings) (source : Text) :
    let report := Report.ofSource s source
    let idioms := Idioms.ofSource source
    descriptionLines report.description =
      ["Analysis Results:".toList,
        "Time Complexity:".toList,
        "• Best Case: ".toList ++ report.time.best.text ++ " - ".toList
          ++ report.time.best.explanation,
        "• Average Case: ".toList ++ report.time.average.text ++ " - ".toList
          ++ report.time.average.explanation,
        "• Worst Case: ".toList ++ report.time.worst.text ++ " - ".toList
          ++ report.time.worst.explanation,
        "Space Complexity: ".toList ++ report.space.text ++ " - ".toList
          ++ report.space.explanation]
        ++ (idioms.remarks.filter (·.1)).map (·.2.toList) ∧
    ∀ (s' : Settings) (source' : Text),
      let report' := Report.ofSource s' source'
      report.description = report'.description ↔
        report.time = report'.time ∧ report.space = report'.space ∧
        idioms = Idioms.ofSource source' := by
  intro report idioms
  refine ⟨?_, ?_⟩
  · rw [← Idioms.notes_eq]
    refine (descriptionLines_describe (isPlain_time s source) (isPlain_space s source) _).trans ?_
    simp only [TimeLabels.lines, Label.described, List.append_assoc, List.cons_append,
      List.nil_append]
    rfl
  · intro s' source' report'
    exact describe_inj (isPlain_time s source) (isPlain_time s' source') (isPlain_space s source)
      (isPlain_space s' source')

end OrderOfGrowth
