import OrderOfGrowth.Proofs.Labels
import OrderOfGrowth.Report.Basic

/-! # Curves — which of them a report draws

    A curve is chosen by comparing a label with five texts, and every other label is drawn as a
    straight line.  The labels of a report are loop nests, or loop nests inside a logarithmic
    factor, and there are infinitely many of both.  Still only four curves are ever drawn:

    * `ofLabel_ofLoopDepth` — the constant and the quadratic nest have their own curve, and all
      others are lines, whether they are recognised or not;
    * `ofLabel_withLogFactor` — a factor around a label is never recognised;
    * `map_ofLabel_time` — so the curves depend on recursion and on whether the depth is zero or
      two.

    Conversion, product and logarithm of floating-point numbers are left as they are: the statements
    say which of them is taken at each size. -/

namespace OrderOfGrowth

namespace Cases

variable {α β : Type}

/-- The three cases, from the best to the worst. -/
def toList (c : Cases α) : List α := [c.best, c.average, c.worst]

theorem toList_map (f : α → β) (c : Cases α) : (c.map f).toList = c.toList.map f := rfl

theorem eq_of_mem_toList_all {a b : α} (h : b ∈ (all a).toList) : b = a := by
  simpa [all, toList] using h

end Cases

namespace Curve

/-! ## Labels and curves -/

/-- Only a named label can have a curve of its own. -/
theorem ofLabel?_eq_none {l : Label} (h : ∀ m ∈ Label.named, l ≠ m) : ofLabel? l = none := by
  rw [ofLabel?, if_neg (h _ (by decide)), if_neg (h _ (by decide)), if_neg (h _ (by decide)),
    if_neg (h _ (by decide)), if_neg (h _ (by decide))]

/-- A spelled power is drawn as a line. -/
theorem ofLabel_power (k : Nat) : ofLabel (.power k) = linear := by
  rw [ofLabel, ofLabel?_eq_none fun _ hm => Label.power_ne hm k]
  rfl

/-- A logarithmic factor around a label is drawn as a line. -/
theorem ofLabel_withLogFactor {l : Label} (h : 'O' ∈ l.text) :
    ofLabel l.withLogFactor = linear := by
  rw [ofLabel, ofLabel?_eq_none fun _ hm => Label.withLogFactor_ne h hm]
  rfl

/-- The curve of a loop nest. -/
def ofLoopDepth : Nat → Curve
  | 0 => constant
  | 2 => quadratic
  | _ => linear

theorem ofLabel_ofLoopDepth (d : Nat) : ofLabel (.ofLoopDepth d) = ofLoopDepth d := by
  match d with
  | 0 | 1 | 2 | 3 => decide
  | d + 4 => exact ofLabel_power (d + 4)

/-- From depth three on, and at depth one, a loop nest is a line. -/
theorem ofLoopDepth_of_line {d : Nat} (h : d = 1 ∨ 3 ≤ d) : ofLoopDepth d = linear := by
  match d with
  | 0 | 2 => omega
  | 1 => rfl
  | d + 3 => rfl

theorem ofLoopDepth_ne_linearithmic (d : Nat) : ofLoopDepth d ≠ linearithmic := by
  match d with
  | 0 | 1 | 2 => decide
  | d + 3 => exact nofun

/-! ## Tallies and curves -/

/-- The curves of a tally. -/
def ofTally (t : Tally) : Cases Curve :=
  if t.recursive then ⟨logarithmic, linear, linear⟩ else .all (ofLoopDepth t.deepest)

theorem ofTally_of_plain {t : Tally} (h : t.recursive = false) :
    ofTally t = .all (ofLoopDepth t.deepest) := by
  rw [ofTally, h, if_neg Bool.false_ne_true]

theorem ofTally_of_recursive {t : Tally} (h : t.recursive = true) :
    ofTally t = ⟨logarithmic, linear, linear⟩ := by
  rw [ofTally, if_pos h]

/-- The curves that the time labels select are those of the tally. -/
theorem map_ofLabel_time (t : Tally) : t.time.map ofLabel = ofTally t := by
  have hline := ofLabel_withLogFactor (Label.mem_text_ofLoopDepth t.deepest)
  cases h : t.recursive with
  | false =>
      rw [ofTally_of_plain h, Tally.time, h, if_neg Bool.false_ne_true]
      show Cases.all (ofLabel (.ofLoopDepth t.deepest)) = Cases.all (ofLoopDepth t.deepest)
      rw [ofLabel_ofLoopDepth]
  | true =>
      rw [ofTally_of_recursive h, Tally.time, if_pos h]
      show Cases.mk logarithmic (ofLabel (Label.ofLoopDepth t.deepest).withLogFactor)
        (ofLabel (Label.ofLoopDepth t.deepest).withLogFactor) = ⟨logarithmic, linear, linear⟩
      rw [hline]

/-- The average and the worst case have the same curve. -/
theorem average_ofTally (t : Tally) : (ofTally t).average = (ofTally t).worst := by
  cases h : t.recursive with
  | false =>
      rw [ofTally_of_plain h]
      rfl
  | true => rw [ofTally_of_recursive h]

/-- The linearithmic curve belongs to no tally. -/
theorem linearithmic_not_mem_ofTally (t : Tally) : linearithmic ∉ (ofTally t).toList := by
  cases h : t.recursive with
  | false =>
      rw [ofTally_of_plain h]
      have hne := ofLoopDepth_ne_linearithmic t.deepest
      simpa [Cases.toList, Cases.all] using hne.symm
  | true =>
      rw [ofTally_of_recursive h]
      decide

end Curve

/-- **Which curves are drawn.**  For all settings and every source text, the average and the worst
    case have the same series, and each series has one sample for each size, in its place.

    * Without recursion, all three series are constantly one for depth zero, the square of the size
      for depth two, and the size itself for depth one and for every depth from three on.
    * With recursion, the best case is the binary logarithm of the size and the others are the size
      itself, whatever the depth.
    * The curve that is drawn is that of the label, and it is never the linearithmic one. -/
theorem Report.samples_ofSource (s : Settings) (source : Text) :
    let report := Report.ofSource s source
    let tally := (Outline.ofSource s.lineRules source).estimate.tally
    report.samples.average = report.samples.worst ∧
    report.sizes = s.sizes ∧
    (∀ series ∈ report.samples.toList, series.length = s.sizes.length) ∧
    (tally.recursive = false → ∀ series ∈ report.samples.toList,
      (tally.deepest = 0 → series = s.sizes.map fun _ => 1) ∧
      (tally.deepest = 2 → series = s.sizes.map fun n => n.toFloat * n.toFloat) ∧
      (tally.deepest = 1 ∨ 3 ≤ tally.deepest → series = s.sizes.map fun n => n.toFloat)) ∧
    (tally.recursive = true →
      report.samples.best = s.sizes.map (fun n => n.toFloat.log2) ∧
      report.samples.average = s.sizes.map (fun n => n.toFloat) ∧
      report.samples.worst = s.sizes.map (fun n => n.toFloat)) ∧
    report.samples = report.time.map (fun l => (Curve.ofLabel l).samples s.sizes) ∧
    ∀ l ∈ report.time.toList, Curve.ofLabel l ≠ .linearithmic := by
  intro report tally
  have hcurves : report.time.map Curve.ofLabel = Curve.ofTally tally :=
    Curve.map_ofLabel_time tally
  have hsamples : report.samples = (Curve.ofTally tally).map (·.samples s.sizes) := by
    rw [← hcurves]
    rfl
  refine ⟨?_, rfl, ?_, ?_, ?_, rfl, ?_⟩
  · rw [hsamples]
    exact congrArg (·.samples s.sizes) (Curve.average_ofTally tally)
  · rw [hsamples, Cases.toList_map]
    intro series hseries
    obtain ⟨c, -, rfl⟩ := List.mem_map.mp hseries
    exact List.length_map _
  · intro hplain series hseries
    rw [hsamples, Curve.ofTally_of_plain hplain, Cases.toList_map] at hseries
    obtain ⟨c, hc, rfl⟩ := List.mem_map.mp hseries
    rw [Cases.eq_of_mem_toList_all hc]
    refine ⟨?_, ?_, ?_⟩
    · intro hdepth
      rw [hdepth]
      rfl
    · intro hdepth
      rw [hdepth]
      rfl
    · intro hdepth
      rw [Curve.ofLoopDepth_of_line hdepth]
      rfl
  · intro hrecursive
    rw [hsamples, Curve.ofTally_of_recursive hrecursive]
    exact ⟨rfl, rfl, rfl⟩
  · intro l hl hcurve
    refine Curve.linearithmic_not_mem_ofTally tally ?_
    rw [← hcurves, Cases.toList_map, ← hcurve]
    exact List.mem_map_of_mem hl

end OrderOfGrowth
