import AnalysisHarness.Measures.Expectation
import AnalysisHarness.Measures.Measured
import AnalysisHarness.Session

/-!
# Checking measures

Expected measures are compared with those that the server reports, metric by metric in the order
of their names. Every metric that differs gives a line.
-/

namespace AnalysisHarness
namespace Measures

open Text

/-- Whether what is reported, if anything is, is what is expected. -/
def matchesExpected (expected : Expected) (got : Option Measured) : Bool :=
  match expected, got with
  | .value wanted, some (.value number _) => wanted.eq number
  | .absent, none => true
  | .absent, some .null => true
  | _, _ => false

def shown : Option Measured -> String
  | some (.value _ written) => written
  | some (.unparsable written) => written
  | some .null => absentWord
  | none => absentWord

def mismatchLine (metric : String) (got : Option Measured) : String :=
  "\t" ++ metric ++ " is actually " ++ shown got

def diff (expected : ExpectedSet) (measured : MeasuredSet) : List String :=
  expected.filterMap fun (metric, wanted) =>
    let got := measured.find? metric
    if matchesExpected wanted got then none else some (mismatchLine metric got)

def measuresUrl (server project : String) (metrics : List String) : String :=
  String.ofList (dropEndWhile (· == '/') server.toList) ++ "/api/resources?resource=" ++ project ++
    "&metrics=" ++ String.intercalate "," metrics

/-- A failure to ask for measures: where the server could not be reached, there are none. -/
def unavailable : Failure -> Failure
  | .http details => .measuresUnavailable ("cannot query the metrics, details: " ++ details)
  | other => other

def fetch (around : Surroundings) (server project : String) (metrics : List String)
    (s : Session) : Except Failure MeasuredSet × Session :=
  match around.get (measuresUrl server project metrics) s with
  | (.error e, s) => (.error (unavailable e), s)
  | (.ok body, s) => (readMeasures body, s)

def compare (expected : ExpectedSet) (measured : MeasuredSet) : Except Failure Unit :=
  match diff expected measured with
  | [] => .ok ()
  | lines => .error (.measureMismatch (String.intercalate "\n" lines))

def check (around : Surroundings) (server project : String) (expected : ExpectedSet)
    (s : Session) : Except Failure Unit × Session :=
  match fetch around server project expected.keys s with
  | (.error e, s) => (.error e, s)
  | (.ok measured, s) => (compare expected measured, s)

end Measures
end AnalysisHarness
