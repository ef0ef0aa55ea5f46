import AnalysisHarness.Measures.Expectation
import AnalysisHarness.Toml.Fields
import AnalysisHarness.Toml.Reader
import AnalysisHarness.Workspace.Files

/-!
# Scenarios

A scenario names a sample project, a command that analyses it, and what should come of that. What
is not asked for is not checked.
-/

namespace AnalysisHarness

inductive ExitExpectation where
  | success
  | breaks
  deriving DecidableEq, Repr

def ExitExpectation.word : ExitExpectation -> String
  | success => "success"
  | breaks => "breaks"

structure Expectations where
  exit : Option ExitExpectation
  backgroundTask : Bool
  logClean : Bool
  logIgnore : Option String
  serverLogClean : Bool
  logContains : Option String
  violations : Option Binary64
  metrics : Option (Text.Keyed Toml.Value)
  testMetrics : Option String

def Expectations.none : Expectations :=
  ⟨.none, false, false, .none, false, .none, .none, .none, .none⟩

structure Scenario where
  project : String
  command : String
  expect : Expectations

namespace Scenario

open Toml

def exitOfWord (word : String) : Except Misfit ExitExpectation :=
  if word = "success" then .ok .success
  else if word = "breaks" then .ok .breaks
  else .error (.unknownWord word)

def isHollow : Value -> Bool
  | .table [] => true
  | .array [] => true
  | _ => false

/-- How a command should end: a word, or a table with nothing under the word. -/
def asExit : Value -> Except Misfit ExitExpectation
  | .string word => exitOfWord word
  | .table [(word, v)] => do
      let exit ← exitOfWord word
      if isHollow v then pure exit else .error .wrongType
  | _ => .error .wrongType

def dateEntry : String := "$__toml_private_datetime"

/-- A value where a table is wanted: a date is taken for a table with its text in it. -/
def tabular : Value -> Value
  | .moment m => .table [(dateEntry, .string (String.ofList m.write))]
  | v => v

def asTable (v : Value) : Except Misfit (Text.Keyed Value) :=
  match tabular v with
  | .table entries => .ok entries
  | _ => .error .wrongType

def readExpectations (v : Value) : Except Misfit Expectations := do
  let fields ← Fields.ofValue (tabular v)
  let exit ← fields.optional 0 "exit" asExit
  let backgroundTask ← fields.withDefault 1 "background_task" asBoolean false
  let logClean ← fields.withDefault 2 "log_clean" asBoolean false
  let logIgnore ← fields.optional 3 "log_ignore" asString
  let serverLogClean ← fields.withDefault 4 "server_log_clean" asBoolean false
  let logContains ← fields.optional 5 "log_contains" asString
  let violations ← fields.optional 6 "violations" asNumber
  let metrics ← fields.optional 7 "metrics" asTable
  let testMetrics ← fields.optional 8 "test_metrics" asString
  pure ⟨exit, backgroundTask, logClean, logIgnore, serverLogClean, logContains, violations,
    metrics, testMetrics⟩

def ofValue (document : Value) : Except Misfit Scenario := do
  let fields ← Fields.ofValue document
  let project ← fields.required 0 "project" asString
  let command ← fields.required 1 "command" asString
  let expect ← fields.withDefault 2 "expect" readExpectations .none
  pure ⟨project, command, expect⟩

def parseFailure (path reason : String) : Failure :=
  .configParse (path ++ ": " ++ reason)

def load [Wording] (files : Workspace) (path : String) : Except Failure Scenario := do
  let text ← Failure.ofIo (files.readText path)
  match Value.read text with
  | .error _ => .error (parseFailure path (Wording.scenario text))
  | .ok document =>
      match ofValue document with
      | .error _ => .error (parseFailure path (Wording.scenario text))
      | .ok scenario => pure scenario

/-- The text that an expectation of a metric is read from. -/
def metricText (metric : String) : Value -> Except Failure String
  | .string s => .ok s
  | .integer n => .ok (toString n)
  | .float x => .ok (String.ofList (Decimal.writeBrief x))
  | other =>
      .error (.configParse ("metric " ++ metric ++ " must be a number or \"None\", found " ++
        String.ofList other.write))

def expectedMetrics (table : Text.Keyed Value) : Except Failure Measures.ExpectedSet := do
  let pairs ← table.mapM fun (metric, v) => do
    let text ← metricText metric v
    pure (metric, text)
  Measures.expectedFromPairs pairs

end Scenario
end AnalysisHarness
