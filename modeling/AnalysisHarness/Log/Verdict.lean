import AnalysisHarness.Log.LineClass

/-!
# Verdicts on logs

The lines of a log that count, in their order, and how many of them are errors and warnings.
-/

namespace AnalysisHarness
namespace Log

/-- What the lines of a log come to. -/
structure Verdict where
  offending : List String
  errors : Nat
  warnings : Nat
  readFailure : Option String
  deriving DecidableEq, Repr

namespace Verdict

def clean : Verdict := ⟨[], 0, 0, none⟩

def unreadable (reason : String) : Verdict := ⟨[], 0, 0, some reason⟩

def cons (line : String) (cls : LineClass) (v : Verdict) : Verdict :=
  match cls with
  | .error => { v with offending := line :: v.offending, errors := v.errors + 1 }
  | .warning => { v with offending := line :: v.offending, warnings := v.warnings + 1 }
  | .warningIgnored => v
  | .normal => v

def ofLines (ignore : Option Pattern) : List String -> Verdict
  | [] => clean
  | line :: lines => cons line (classify ignore line) (ofLines ignore lines)

def isClean (v : Verdict) : Bool := v.offending.isEmpty && v.readFailure.isNone

/-- The lines that count, and after them why the log could not be read. -/
def reportLines (v : Verdict) : List String := v.offending ++ v.readFailure.toList

end Verdict

end Log
end AnalysisHarness
