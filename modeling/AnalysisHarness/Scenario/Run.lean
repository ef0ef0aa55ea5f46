import AnalysisHarness.Config.Settings
import AnalysisHarness.Measures.Check
import AnalysisHarness.Scenario.Step
import AnalysisHarness.Task.Poll

/-!
# Running scenarios

The command of a scenario is run once, and then everything that is asked for is checked, each
thing whether or not the things before it are as they should be.
-/

namespace AnalysisHarness
namespace Scenario

inductive CheckKind where
  | exitCode
  | backgroundTask
  | analysisLog
  | serverLog
  | logLine
  | violations
  | metrics
  | testMetrics
  deriving DecidableEq, Repr

def CheckKind.name : CheckKind -> String
  | exitCode => "exit code"
  | backgroundTask => "background task"
  | analysisLog => "analysis log"
  | serverLog => "server log"
  | logLine => "log line"
  | violations => "violations"
  | metrics => "metrics"
  | testMetrics => "test metrics"

/-- A check: what it finds, and what it leaves. -/
abbrev CheckAction := StepContext -> Session -> Except Failure Unit × StepContext × Session

structure Check where
  kind : CheckKind
  run : CheckAction

structure CheckResult where
  kind : CheckKind
  failure : Option String
  deriving DecidableEq, Repr

structure Runner where
  config : Config
  testdata : String
  logDir : String
  serverHome : Option String
  deriving DecidableEq, Repr

def Runner.inDirectory (config : Config) (root : String) (serverHome : Option String) : Runner :=
  ⟨config, Path.join root config.testdata, root, serverHome⟩

structure RunReport where
  project : String
  log : String
  exitCode : Int
  checks : List CheckResult
  deriving DecidableEq, Repr

def RunReport.passed (r : RunReport) : Bool := r.checks.all fun c => c.failure.isNone

def looking (check : StepContext -> Workspace -> Except Failure Unit) : CheckAction :=
  fun ctx s => (check ctx s.files, ctx, s)

def taskOutcome : Except Failure Task.PollReport -> Except Failure Unit
  | .error e => .error e
  | .ok report =>
      match report.outcome with
      | .failed message => .error (.taskFailed message)
      | .success => .ok ()
      | .skipped => .ok ()

def checkBackgroundTask (around : Surroundings) (runner : Runner) : CheckAction := fun ctx s =>
  let (result, s) := Task.waitForAnalysis around runner.config.pollSettings ctx.log s
  (taskOutcome result, ctx, s)

def checkMeasures (around : Surroundings) (runner : Runner)
    (expected : Except Failure Measures.ExpectedSet) : CheckAction := fun ctx s =>
  match expected with
  | .error e => (.error e, ctx, s)
  | .ok expected =>
      let (result, s) := Measures.check around runner.config.server.url ctx.project expected s
      (result, ctx, s)

def checkServerLog : CheckAction := fun ctx s =>
  let (result, ctx) := ctx.checkServerLog s.files
  (result, ctx, s)

def checkOf? (around : Surroundings) (runner : Runner) (expect : Expectations)
    (ignore : Option Pattern) : CheckKind -> Option CheckAction
  | .exitCode => expect.exit.map fun exit => looking fun ctx _ => ctx.checkExit exit
  | .backgroundTask =>
      if expect.backgroundTask then some (checkBackgroundTask around runner) else none
  | .analysisLog =>
      if expect.logClean then some (looking fun ctx files => ctx.checkLog files ignore) else none
  | .serverLog => if expect.serverLogClean then some checkServerLog else none
  | .logLine =>
      expect.logContains.map fun pattern =>
        looking fun ctx files => ctx.checkLogContains files pattern
  | .violations =>
      expect.violations.map fun count =>
        checkMeasures around runner (.ok (Measures.expectedViolations count))
  | .metrics =>
      expect.metrics.map fun table => checkMeasures around runner (expectedMetrics table)
  | .testMetrics =>
      expect.testMetrics.map fun values =>
        checkMeasures around runner (Measures.expectedTestMetrics values)

def allKinds : List CheckKind :=
  [.exitCode, .backgroundTask, .analysisLog, .serverLog, .logLine, .violations, .metrics,
    .testMetrics]

def requested (around : Surroundings) (runner : Runner) (expect : Expectations)
    (ignore : Option Pattern) : List Check :=
  allKinds.filterMap fun kind =>
    (checkOf? around runner expect ignore kind).map fun run => ⟨kind, run⟩

def failureText [Wording] : Except Failure Unit -> Option String
  | .ok () => none
  | .error e => some e.message

/-- Makes checks one after another; none of them keeps the next ones from being made. -/
def runChecks [Wording] :
    List Check -> StepContext -> Session -> List CheckResult × StepContext × Session
  | [], ctx, s => ([], ctx, s)
  | check :: checks, ctx, s =>
      match check.run ctx s with
      | (result, ctx, s) =>
          match runChecks checks ctx s with
          | (results, ctx, s) => (⟨check.kind, failureText result⟩ :: results, ctx, s)

def ignorePattern (scenario : Scenario) : Except Failure (Option Pattern) :=
  match scenario.expect.logIgnore with
  | none => .ok none
  | some text => Failure.ofPattern (Pattern.ofIgnoreText text)

def prepare (runner : Runner) (scenario : Scenario) (files : Workspace) :
    Except Failure (StepContext × Option Pattern) := do
  let ctx ← StepContext.forProject files runner.testdata scenario.project runner.logDir
  let ignore ← ignorePattern scenario
  pure (ctx, ignore)

def run [Wording] (around : Surroundings) (runner : Runner) (scenario : Scenario) (s : Session) :
    Except Failure RunReport × Session :=
  match prepare runner scenario s.files with
  | .error e => (.error e, s)
  | .ok (ctx, ignore) =>
      match ctx.runCommand around scenario.command runner.serverHome s with
      | (.error e, _, s) => (.error e, s)
      | (.ok code, ctx, s) =>
          match runChecks (requested around runner scenario.expect ignore) ctx s with
          | (results, ctx, s) => (.ok ⟨ctx.project, ctx.log, code, results⟩, s)

end Scenario
end AnalysisHarness
