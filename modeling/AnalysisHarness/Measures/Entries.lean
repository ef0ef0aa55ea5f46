import AnalysisHarness.Measures.Expectation
import AnalysisHarness.Text.Search

/-!
# Entries of expected measures

What is expected can be given in a line each: an entry is a metric, an equals sign and a value. A
list of values of the metrics about tests can stand before the entries, which override it.
-/

namespace AnalysisHarness
namespace Measures

open Text

def splitEntry (entry : String) : Except Failure (String × String) :=
  match splitFirst ['='] entry.toList with
  | none => .error (.configParse ("expected METRIC=VALUE, found " ++ entry))
  | some (metric, value) => .ok (String.ofList (trimChars metric), String.ofList value)

/-- What is expected of the metrics about tests, if a list of values is given. -/
def expectedTestMetrics? : Option String -> Except Failure ExpectedSet
  | none => .ok []
  | some values => expectedTestMetrics values

def overlayExpected (base upper : ExpectedSet) : ExpectedSet :=
  upper.foldl (fun entries (metric, expected) => Keyed.put metric expected entries) base

/-- What is expected by a list of values and by entries, of which there must be some. -/
def expectedFromEntries (testValues : Option String) (entries : List String) :
    Except Failure ExpectedSet := do
  let base ← expectedTestMetrics? testValues
  let pairs ← entries.mapM splitEntry
  let upper ← expectedFromPairs pairs
  let expected := overlayExpected base upper
  if expected.isEmpty then
    .error (.configParse "no expected measures: pass --expect or --test-metrics")
  else pure expected

end Measures
end AnalysisHarness
