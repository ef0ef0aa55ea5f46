import AnalysisHarness.Decimal.Literal
import AnalysisHarness.Failure
import AnalysisHarness.Text.Blank
import AnalysisHarness.Text.Segments

/-!
# Expected measures

What the measures of a project should be: for each metric a number, or no value at all.
-/

namespace AnalysisHarness
namespace Measures

open Text

inductive Expected where
  | value (number : Binary64)
  /-- The metric should have no value. -/
  | absent
  deriving DecidableEq, Repr

abbrev ExpectedSet := Keyed Expected

def absentWord : String := "None"

def Expected.read (text : String) : Except Failure Expected :=
  let trimmed := trim text
  if trimmed = absentWord then .ok absent
  else
    match Decimal.read trimmed.toList with
    | some number => .ok (value number)
    | none => .error (.configParse ("invalid expected metric value: " ++ trimmed))

def readPairs (pairs : List (String × String)) :
    Except Failure (List (String × Expected)) :=
  pairs.mapM fun (metric, text) => do
    let expected ← Expected.read text
    pure (metric, expected)

/-- What is expected by pairs of a metric and a text; the last pair with a metric counts. -/
def expectedFromPairs (pairs : List (String × String)) : Except Failure ExpectedSet := do
  let read ← readPairs pairs
  pure (Keyed.ofPairs read)

def testMetrics : List String :=
  ["tests", "test_failures", "test_errors", "skipped_tests", "test_success_density",
    "test_execution_time"]

/-- The metrics about tests that are compared: the time differs from run to run. -/
def comparedTestMetrics : List String := testMetrics.take 5

/-- What is expected by a list of values of the metrics about tests, separated by commas. -/
def expectedTestMetrics (values : String) : Except Failure ExpectedSet :=
  let fields := (segments ',' values.toList).map fun field => String.ofList (trimChars field)
  if fields.length ≠ testMetrics.length then
    .error (.configParse ("expected " ++ toString testMetrics.length ++
      " test metric values, found " ++ toString fields.length))
  else expectedFromPairs (comparedTestMetrics.zip fields)

def expectedViolations (count : Binary64) : ExpectedSet := [("violations", .value count)]

end Measures
end AnalysisHarness
