import OrderOfGrowth.Proofs.Trace
import OrderOfGrowth.Proofs.Traversal
import OrderOfGrowth.Report.Basic

/-! # Call tracking — what recording calls adds, and what it leaves alone

    Tracking puts call leaves between the scopes and allocations of an outline.  The route from
    there to the report:

    * `Outline.withoutCalls` takes the call leaves out again, and on traces that is a filter
      (`traces_rowWithoutCalls`);
    * putting marks in balance commutes with the filter (`settle_filter_isCall`), since a call
      opens and closes nothing; so the untracked outline is the tracked one without its calls
      (`withoutCalls_ofSource`);
    * the tally sees a call only through the recursion flag (`tally_withoutCalls`), and the report
      sees the outline only through its tally. -/

namespace OrderOfGrowth

/-- Is the mark that of a call? -/
def Mark.isCall : Mark → Bool
  | .call _ => true
  | _ => false

/-! ## Outlines without their calls -/

namespace Outline

mutual

/-- The outline without the calls below its root. -/
def withoutCalls : Outline → Outline
  | program body => program (rowWithoutCalls body)
  | loop body => loop (rowWithoutCalls body)
  | function name body => function name (rowWithoutCalls body)
  | allocation count => allocation count
  | call name => call name

/-- The row without its calls, those below its outlines included. -/
def rowWithoutCalls : List Outline → List Outline
  | [] => []
  | t :: ts =>
    if t.kind = .call then rowWithoutCalls ts else withoutCalls t :: rowWithoutCalls ts

end

/-- No outline of such a row is a call. -/
theorem kind_ne_call_of_mem {c : Outline} {ts : List Outline} (h : c ∈ rowWithoutCalls ts) :
    c.kind ≠ .call := by
  induction ts with
  | nil => exact nomatch h
  | cons t ts ih =>
      rw [rowWithoutCalls] at h
      by_cases ht : t.kind = .call
      · rw [if_pos ht] at h
        exact ih h
      · rw [if_neg ht] at h
        rcases List.mem_cons.mp h with rfl | h
        · cases t <;> simp_all [withoutCalls, kind]
        · exact ih h

/-- Taking the calls out of a row takes their marks out of its trace. -/
theorem traces_rowWithoutCalls (ts : List Outline) :
    traces (rowWithoutCalls ts) = (traces ts).filter (!·.isCall) := by
  induction ts using rowInduction with
  | nil => rfl
  | cons t ts hbody hrow =>
      cases t <;> simp only [children] at hbody <;>
        simp [rowWithoutCalls, kind, withoutCalls, traces, trace, hbody, hrow, Mark.isCall]

end Outline

/-! ## Marks without their calls -/

/-- Calls open and close nothing, so it does not matter when they are taken out. -/
theorem Mark.settle_filter_isCall (depth : Nat) (ms : List Mark) :
    settle depth (ms.filter (!·.isCall)) = (settle depth ms).filter (!·.isCall) := by
  fun_induction settle depth ms with
  | case1 depth => exact (List.filter_replicate_of_pos rfl).symm
  | case2 depth ms ih => exact congrArg (Mark.program :: ·) ih
  | case3 depth opener ms ih => exact congrArg (Mark.enter opener :: ·) ih
  | case4 depth count ms ih => exact congrArg (Mark.allocation count :: ·) ih
  | case5 depth name ms ih => exact ih
  | case6 ms ih => exact ih
  | case7 depth ms ih => exact congrArg (Mark.leave :: ·) ih

/-- A line's marks without the calls are those of a line that calls nothing. -/
theorem LineTags.filter_isCall_marks (t : LineTags) :
    t.marks.filter (!·.isCall) = { t with calls := [] }.marks := by
  have hcalls : (t.calls.map Mark.call).filter (!·.isCall) = [] := by
    refine List.filter_eq_nil_iff.mpr fun m hm => ?_
    obtain ⟨name, -, rfl⟩ := List.mem_map.mp hm
    exact Bool.false_ne_true
  have hone : ∀ (b : Bool) (m : Mark), m.isCall = false →
      (if b then [m] else []).filter (!·.isCall) = if b then [m] else [] := by
    intro b m hm
    cases b <;> simp [hm]
  simp only [marks, List.filter_append, hcalls, List.map_nil]
  rw [hone t.opensLoop _ rfl, hone t.opensFunction _ rfl, hone t.allocates _ rfl,
    hone t.closes _ rfl]

/-- The untracked outline is the tracked one without its calls. -/
theorem Outline.withoutCalls_ofSource (k : Keywords) (source : Text) :
    (Outline.ofSource ⟨k, true⟩ source).withoutCalls = Outline.ofSource ⟨k, false⟩ source := by
  obtain ⟨body, hbody, htraces⟩ :=
    Draft.traces_finish_ofEvents (LineRules.events ⟨k, true⟩ source)
  rw [LineRules.map_mark_events] at htraces
  refine trace_injective ?_
  rw [show Outline.ofSource ⟨k, true⟩ source = .program body from hbody, withoutCalls, trace,
    traces_rowWithoutCalls, htraces, ← Mark.settle_filter_isCall, List.filter_flatMap,
    trace_ofSource]
  simp only [LineTags.filter_isCall_marks]
  rfl

/-! ## Tallies and reports -/

namespace Outline

theorem loopDepths_rowWithoutCalls (ts : List Outline) :
    loopDepths (rowWithoutCalls ts) = loopDepths ts := by
  induction ts using rowInduction with
  | nil => rfl
  | cons t ts hbody hrow =>
      cases t <;> simp only [children] at hbody <;>
        simp [rowWithoutCalls, kind, withoutCalls, hbody, hrow]

theorem allocated_rowWithoutCalls (ts : List Outline) :
    ((nodesOf (rowWithoutCalls ts)).map allocated).sum = ((nodesOf ts).map allocated).sum := by
  induction ts using rowInduction with
  | nil => rfl
  | cons t ts hbody hrow =>
      cases t <;> simp only [children] at hbody <;>
        simp [rowWithoutCalls, kind, withoutCalls, hbody, hrow]

/-- Nobody calls itself in a row without calls. -/
theorem callsItself_rowWithoutCalls (ts : List Outline) :
    (nodesOf (rowWithoutCalls ts)).any callsItself = false := by
  have hrow : ∀ (name : Option Text) (body : List Outline),
      Tally.callsItself name (rowWithoutCalls body) = false := by
    intro name body
    rw [show Tally.callsItself name (rowWithoutCalls body)
      = (function name (rowWithoutCalls body)).callsItself from rfl]
    rw [Bool.eq_false_iff, Ne, callsItself_iff]
    rintro ⟨n, row, heq, hcall⟩
    obtain ⟨-, rfl⟩ := Outline.function.inj heq
    exact kind_ne_call_of_mem hcall rfl
  induction ts using rowInduction with
  | nil => rfl
  | cons t ts hbody hts =>
      cases t <;> simp only [children] at hbody <;>
        simp [rowWithoutCalls, kind, withoutCalls, hbody, hts, hrow]

/-- Taking the calls out of a program changes nothing in its tally but the recursion flag, which
    goes. -/
theorem tally_withoutCalls (body : List Outline) :
    (program body).withoutCalls.tally = { (program body).tally with recursive := false } := by
  rw [tally_eq_after, tally_eq_after, withoutCalls]
  simp [Tally.after, Tally.zero, loopDepths_rowWithoutCalls, allocated_rowWithoutCalls,
    callsItself_rowWithoutCalls]

end Outline

/-- The tallies of one source text with and without tracking differ in the recursion flag alone. -/
theorem Outline.tally_untracked (k : Keywords) (source : Text) :
    (Outline.ofSource ⟨k, false⟩ source).tally
      = { (Outline.ofSource ⟨k, true⟩ source).tally with recursive := false } := by
  obtain ⟨body, hbody, -⟩ := Draft.traces_finish_ofEvents (LineRules.events ⟨k, true⟩ source)
  rw [← withoutCalls_ofSource, show Outline.ofSource ⟨k, true⟩ source = .program body from hbody,
    tally_withoutCalls]

/-- The report that a tally gives; of the settings, only the name and the sizes matter. -/
def Report.ofTally (s : Settings) (source : Text) (t : Tally) : Report :=
  let space := (Idioms.ofSource source).space t.space
  { name := s.name
    time := t.time
    space := space
    source := source
    description := describe t.time space (.ofSource source)
    sizes := s.sizes
    samples := t.time.map fun l => (Curve.ofLabel l).samples s.sizes }

theorem Report.ofSource_eq_ofTally (s : Settings) (tracks : Bool) (source : Text) :
    Report.ofSource { s with tracksCalls := tracks } source
      = ofTally s source (Outline.ofSource ⟨s.keywords, tracks⟩ source).tally := rfl

/-- Recursion shows in the time labels, and in the space label if the idioms leave it alone. -/
theorem Tally.labels_recursive {t : Tally} (h : t.recursive = true) (idioms : Idioms) :
    let plain : Tally := { t with recursive := false }
    t.time = ⟨.logarithmic, plain.time.average.withLogFactor, plain.time.worst.withLogFactor⟩ ∧
    idioms.space t.space
      = if idioms.createsArray || idioms.createsMap then idioms.space plain.space
        else .logarithmic := by
  intro plain
  constructor
  · rw [time, if_pos h]
    rfl
  · rw [space, if_pos h, Idioms.space, Idioms.space]
    by_cases hflags : (idioms.createsArray || idioms.createsMap) = true
    · rw [if_pos hflags, if_pos hflags, if_pos hflags]
    · rw [if_neg hflags, if_neg hflags]

/-- **Tracking calls is conservative.**  For all settings and every source text, the outline that
    is read without tracking is the tracked one without its call leaves.  Loop depth and allocations
    are the same, and without tracking nothing is recursive.  Unless the tracked outline is
    recursive, the reports are the same.  If it is, the best case becomes logarithmic, the other two
    time labels get a logarithmic factor around them, and the space label becomes logarithmic unless
    the raw text shows an array or a map; name, source and sizes stay, so that only the samples and
    the description are left to differ. -/
theorem Report.ofSource_tracked (s : Settings) (source : Text) :
    let tracked := Outline.ofSource ⟨s.keywords, true⟩ source
    let untracked := Outline.ofSource ⟨s.keywords, false⟩ source
    let full := Report.ofSource { s with tracksCalls := true } source
    let plain := Report.ofSource { s with tracksCalls := false } source
    let idioms := Idioms.ofSource source
    tracked.withoutCalls = untracked ∧
    tracked.tally.deepest = untracked.tally.deepest ∧
    tracked.tally.allocations = untracked.tally.allocations ∧
    untracked.tally.recursive = false ∧
    (tracked.tally.recursive = false → full = plain) ∧
    (tracked.tally.recursive = true →
      full.time
        = ⟨.logarithmic, plain.time.average.withLogFactor, plain.time.worst.withLogFactor⟩ ∧
      full.space
        = (if idioms.createsArray || idioms.createsMap then plain.space else .logarithmic) ∧
      full.name = plain.name ∧ full.source = plain.source ∧ full.sizes = plain.sizes) := by
  intro tracked untracked full plain idioms
  have htally : untracked.tally = { tracked.tally with recursive := false } :=
    Outline.tally_untracked s.keywords source
  have hfull : full = ofTally s source tracked.tally := ofSource_eq_ofTally s true source
  have hplain : plain = ofTally s source untracked.tally := ofSource_eq_ofTally s false source
  refine ⟨Outline.withoutCalls_ofSource s.keywords source, ?_, ?_, ?_, ?_, ?_⟩
  · rw [htally]
  · rw [htally]
  · rw [htally]
  · intro hrec
    rw [hfull, hplain, htally, ← hrec]
  · intro hrec
    obtain ⟨htime, hspace⟩ := Tally.labels_recursive hrec idioms
    rw [← htally] at htime hspace
    rw [hfull, hplain]
    exact ⟨htime, hspace, rfl, rfl, rfl⟩

/-- A function that calls itself and makes a map: the time labels change, the space label does
    not. -/
theorem Report.ofSource_tracked_map :
    let source := "function f(n) \x7b\nnew Map();\nf(n);\n\x7d".toList
    let full := Report.ofSource { Settings.standard with tracksCalls := true } source
    let plain := Report.ofSource { Settings.standard with tracksCalls := false } source
    (Outline.ofSource ⟨Keywords.standard, true⟩ source).tally.recursive = true ∧
    full.time
      = ⟨.logarithmic, plain.time.average.withLogFactor, plain.time.worst.withLogFactor⟩ ∧
    full.space = plain.space := by
  intro source full plain
  have hrec : (Outline.ofSource ⟨Keywords.standard, true⟩ source).tally.recursive = true := by
    rw [Outline.recursive_tally]
    decide +kernel
  have hflags : ((Idioms.ofSource source).createsArray || (Idioms.ofSource source).createsMap)
      = true := by decide
  obtain ⟨htime, hspace, -⟩ := (Report.ofSource_tracked .standard source).2.2.2.2.2 hrec
  rw [if_pos hflags] at hspace
  exact ⟨hrec, htime, hspace⟩

end OrderOfGrowth
