import AnalysisHarness.Log.Reading

/-!
# Verdicts on lines

A verdict is the list of the lines that count and the number of each kind of them. A log that can be
read has the lines of its bytes.
-/

namespace AnalysisHarness
namespace Log

open Text

theorem readLines_of_read {files : Workspace} {path : String} {bytes : Bytes}
    (h : files.read path = .ok bytes) : readLines files path = .ok (linesOfBytes bytes) := by
  rw [readLines, h]
  rfl

theorem readLines_of_unreadable {files : Workspace} {path : String} {e : IoError}
    (h : files.read path = .error e) : readLines files path = .error e := by
  rw [readLines, h]
  rfl

/-- A verdict lists the lines that count in their order, and counts each kind of them. -/
theorem ofLines_eq (ignore : Option Pattern) (lines : List String) :
    Verdict.ofLines ignore lines =
      { offending := lines.filter fun line =>
          classify ignore line = .error ∨ classify ignore line = .warning
        errors := lines.countP fun line => classify ignore line = .error
        warnings := lines.countP fun line => classify ignore line = .warning
        readFailure := none } := by
  induction lines with
  | nil => rfl
  | cons line lines ih =>
      rw [Verdict.ofLines, ih]
      cases hclass : classify ignore line with
      | error => simp [Verdict.cons, hclass]
      | warning => simp [Verdict.cons, hclass]
      | warningIgnored => simp [Verdict.cons, hclass]
      | normal => simp [Verdict.cons, hclass]

theorem isClean_ofLines_iff (ignore : Option Pattern) (lines : List String) :
    (Verdict.ofLines ignore lines).isClean = true <->
      forall line, line ∈ lines ->
        classify ignore line ≠ .error ∧ classify ignore line ≠ .warning := by
  rw [ofLines_eq, Verdict.isClean, Option.isNone_none, Bool.and_true, List.isEmpty_iff,
    List.filter_eq_nil_iff]
  simp

end Log
end AnalysisHarness
