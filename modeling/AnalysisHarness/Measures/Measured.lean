import AnalysisHarness.Decimal.Literal
import AnalysisHarness.Failure
import AnalysisHarness.Json.Printer
import AnalysisHarness.Text.Blank

/-!
# Reported measures

The measures of a project as a server reports them: an array of resources, of which the first one
holds a list of measures. A measure that is not as it should be does not keep the others from
being read.
-/

namespace AnalysisHarness
namespace Measures

open Text

/-- What a server reports for a metric. -/
inductive Measured where
  /-- A number, and how it was written. -/
  | value (number : Binary64) (written : String)
  | null
  | unparsable (written : String)
  deriving DecidableEq, Repr

abbrev MeasuredSet := Keyed Measured

def Measured.ofJson : Json -> Measured
  | .null => null
  | .number n => value n.toBinary64 (String.ofList n.write)
  | .string s =>
      match Decimal.read (trimChars s.toList) with
      | some number => value number (trim s)
      | none => unparsable s
  | other => unparsable other.compact

/-- The metric and what is reported for it, if this is a measure with a key. -/
def measure? (j : Json) : Option (String × Measured) :=
  match j.member? "key" with
  | some (.string key) =>
      match j.member? "val" with
      | some value => some (key, Measured.ofJson value)
      | none => some (key, .null)
  | _ => none

def measuresOf (resource : Json) : List Json :=
  match resource.member? "msr" with
  | some (.array measures) => measures
  | _ => []

def readMeasures (body : String) : Except Failure MeasuredSet :=
  match Json.read body with
  | .error fault => .error (.json ⟨fault, body⟩)
  | .ok (.array (resource :: _)) =>
      .ok (Keyed.ofPairs ((measuresOf resource).filterMap measure?))
  | .ok _ => .error (.measuresUnavailable ("no resource in measures response: " ++ body))

end Measures
end AnalysisHarness
