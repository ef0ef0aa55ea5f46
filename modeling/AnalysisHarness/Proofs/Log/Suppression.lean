import AnalysisHarness.Proofs.Log.Verdict

/-!
# Verdicts with an ignore pattern

An ignore pattern takes the lines that it matches out of a verdict, and changes nothing else: no
line counts that did not count without it, and none counts as something else. Verdicts on lists of
lines add up, with an ignore pattern or without one.
-/

namespace AnalysisHarness
namespace Log

/-- The class of a line of a class that an ignore pattern matches. -/
def LineClass.suppressed : LineClass -> LineClass
  | .error => .normal
  | .warning => .warningIgnored
  | .warningIgnored => .warningIgnored
  | .normal => .normal

/-!
## Lines

What the pattern matches is out, whatever it was; in particular an error does not become a warning.
-/

theorem classify_some (pattern : Pattern) (line : String) :
    classify (some pattern) line =
      if pattern.isMatch line then (classify none line).suppressed else classify none line := by
  have hsome : isIgnored (some pattern) line = pattern.isMatch line := rfl
  have hnone : isIgnored none line = false := rfl
  unfold classify
  rw [hsome, hnone]
  cases hmatch : pattern.isMatch line with
  | false => rfl
  | true =>
      cases errorPattern.isMatch line with
      | true => rfl
      | false =>
          cases warningPattern.isMatch line with
          | false => rfl
          | true => cases isBenign line <;> rfl

theorem suppressed_ne_error (cls : LineClass) : cls.suppressed ≠ .error := by
  cases cls <;> decide

theorem suppressed_ne_warning (cls : LineClass) : cls.suppressed ≠ .warning := by
  cases cls <;> decide

/-- With a pattern, a line is of a class that no match leads to if it was and does not match. -/
theorem classify_some_iff {cls : LineClass} (h : forall other : LineClass, other.suppressed ≠ cls)
    (pattern : Pattern) (line : String) :
    classify (some pattern) line = cls <->
      classify none line = cls ∧ pattern.isMatch line = false := by
  rw [classify_some]
  cases pattern.isMatch line with
  | false => simp
  | true => simp [h]

/-!
## Verdicts
-/

theorem offending_some (pattern : Pattern) (lines : List String) :
    (Verdict.ofLines (some pattern) lines).offending =
      (Verdict.ofLines none lines).offending.filter fun line => !pattern.isMatch line := by
  rw [ofLines_eq, ofLines_eq, List.filter_filter]
  apply List.filter_congr
  intro line _hline
  rw [Bool.eq_iff_iff]
  simp only [Bool.and_eq_true, Bool.not_eq_true', decide_eq_true_eq,
    classify_some_iff suppressed_ne_error, classify_some_iff suppressed_ne_warning]
  rw [← or_and_right, and_comm]

theorem classify_of_mem_offending {pattern : Pattern} {lines : List String} {line : String}
    (h : line ∈ (Verdict.ofLines (some pattern) lines).offending) :
    classify (some pattern) line = classify none line := by
  rw [offending_some] at h
  have hmatch : pattern.isMatch line = false := by
    simpa using (List.mem_filter.mp h).2
  rw [classify_some, hmatch]
  rfl

theorem counts_eq (ignore : Option Pattern) (lines : List String) :
    (Verdict.ofLines ignore lines).errors =
        (Verdict.ofLines ignore lines).offending.countP
          (fun line => classify ignore line = .error) ∧
      (Verdict.ofLines ignore lines).warnings =
        (Verdict.ofLines ignore lines).offending.countP
          (fun line => classify ignore line = .warning) := by
  rw [ofLines_eq]
  simp only [List.countP_filter]
  constructor
  · apply List.countP_congr
    intro line _hline
    simp only [Bool.and_eq_true, decide_eq_true_eq]
    exact ⟨fun herror => ⟨herror, Or.inl herror⟩, And.left⟩
  · apply List.countP_congr
    intro line _hline
    simp only [Bool.and_eq_true, decide_eq_true_eq]
    exact ⟨fun hwarning => ⟨hwarning, Or.inr hwarning⟩, And.left⟩

theorem errors_add_warnings (ignore : Option Pattern) (lines : List String) :
    (Verdict.ofLines ignore lines).errors + (Verdict.ofLines ignore lines).warnings =
      (Verdict.ofLines ignore lines).offending.length := by
  induction lines with
  | nil => rfl
  | cons line lines ih =>
      rw [Verdict.ofLines]
      cases classify ignore line with
      | error => simp only [Verdict.cons, List.length_cons]; omega
      | warning => simp only [Verdict.cons, List.length_cons]; omega
      | warningIgnored => exact ih
      | normal => exact ih

theorem counts_some_le (pattern : Pattern) (lines : List String) :
    (Verdict.ofLines (some pattern) lines).errors ≤ (Verdict.ofLines none lines).errors ∧
      (Verdict.ofLines (some pattern) lines).warnings ≤
        (Verdict.ofLines none lines).warnings := by
  rw [ofLines_eq, ofLines_eq]
  constructor
  · apply List.countP_mono_left
    intro line _hline herror
    have hclass :=
      (classify_some_iff suppressed_ne_error pattern line).mp (of_decide_eq_true herror)
    exact decide_eq_true hclass.1
  · apply List.countP_mono_left
    intro line _hline hwarning
    have hclass :=
      (classify_some_iff suppressed_ne_warning pattern line).mp (of_decide_eq_true hwarning)
    exact decide_eq_true hclass.1

def Verdict.add (v w : Verdict) : Verdict where
  offending := v.offending ++ w.offending
  errors := v.errors + w.errors
  warnings := v.warnings + w.warnings
  readFailure := v.readFailure <|> w.readFailure

theorem ofLines_append (ignore : Option Pattern) (lines more : List String) :
    Verdict.ofLines ignore (lines ++ more) =
      (Verdict.ofLines ignore lines).add (Verdict.ofLines ignore more) := by
  rw [ofLines_eq, ofLines_eq, ofLines_eq]
  simp [Verdict.add]

/--
An ignore pattern acts as a filter: the lines that it matches are taken out of those that count,
the others stay in their order and in their class. Verdicts on two lists of lines add up to the
verdict on both.
-/
theorem ofLines_filtered_by_pattern (pattern : Pattern) (lines : List String) :
    let all := Verdict.ofLines none lines
    let left := Verdict.ofLines (some pattern) lines
    left.offending = (all.offending.filter fun line => !pattern.isMatch line) ∧
      (forall line, line ∈ left.offending ->
        classify (some pattern) line = classify none line) ∧
      left.errors = left.offending.countP (fun line => classify none line = .error) ∧
      left.warnings = left.offending.countP (fun line => classify none line = .warning) ∧
      left.errors + left.warnings = left.offending.length ∧
      left.errors ≤ all.errors ∧ left.warnings ≤ all.warnings ∧
      left.readFailure = all.readFailure ∧
      forall (ignore : Option Pattern) (more : List String),
        let whole := Verdict.ofLines ignore (lines ++ more)
        let first := Verdict.ofLines ignore lines
        let second := Verdict.ofLines ignore more
        whole.offending = first.offending ++ second.offending ∧
          whole.errors = first.errors + second.errors ∧
          whole.warnings = first.warnings + second.warnings := by
  intro all left
  have hclass : forall line, line ∈ left.offending ->
      classify (some pattern) line = classify none line :=
    fun line hline => classify_of_mem_offending hline
  rcases counts_eq (some pattern) lines with ⟨herrors, hwarnings⟩
  rcases counts_some_le pattern lines with ⟨hfewer, hfewer'⟩
  refine ⟨offending_some pattern lines, hclass, ?_, ?_, errors_add_warnings _ lines, hfewer,
    hfewer', ?_, ?_⟩
  · refine herrors.trans (List.countP_congr ?_)
    intro line hline
    rw [hclass line hline]
  · refine hwarnings.trans (List.countP_congr ?_)
    intro line hline
    rw [hclass line hline]
  · rw [show left = Verdict.ofLines (some pattern) lines from rfl,
      show all = Verdict.ofLines none lines from rfl, ofLines_eq, ofLines_eq]
  · intro ignore more whole first second
    rw [show whole = first.add second from ofLines_append ignore lines more]
    exact ⟨rfl, rfl, rfl⟩

end Log
end AnalysisHarness
