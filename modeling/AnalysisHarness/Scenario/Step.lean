import AnalysisHarness.Log.Reading
import AnalysisHarness.Report.LogReport
import AnalysisHarness.Scenario.Basic
import AnalysisHarness.ServerLog.Daily
import AnalysisHarness.ServerLog.Tail
import AnalysisHarness.Session

/-!
# Steps of a scenario

A step runs a command in the directory of the project or checks what came of it. What steps hand
on to each other is the exit code of the command and the log of the server that is being followed.
-/

namespace AnalysisHarness

/-- What the steps of a scenario share. -/
structure StepContext where
  project : String
  projectDir : String
  log : String
  exitCode : Option Int
  serverLog : Option ServerLog.Tail
  deriving DecidableEq, Repr

namespace StepContext

def forProject (files : Workspace) (testdata project logDir : String) :
    Except Failure StepContext :=
  let projectDir := Path.join testdata project
  if files.isDirectory projectDir then
    .ok ⟨project, projectDir, Path.join logDir ("_" ++ project ++ "_.log"), none, none⟩
  else .error (.pathNotFound projectDir)

/--
Starts to follow today's log of a server, in place of the one followed so far. If there is no
server or its log cannot be opened, none is followed.
-/
def followServerLog (ctx : StepContext) (files : Workspace) (today : Date)
    (home : Option String) : StepContext :=
  match home with
  | none => { ctx with serverLog := none }
  | some home =>
      let path := ServerLog.dailyFile home today
      { ctx with serverLog := (ServerLog.Tail.start files path).toOption }

/--
Runs a command in the directory of the project, with all its output in the log, and follows the
log of the server from before the command on.
-/
def runCommand (around : Surroundings) (command : String) (home : Option String)
    (ctx : StepContext) (s : Session) : Except Failure Int × StepContext × Session :=
  let ctx := ctx.followServerLog s.files around.today home
  match s.files.create ctx.log with
  | .error e => (.error (.io e), ctx, s)
  | .ok (files, log) =>
      match around.shell ⟨command, ctx.projectDir, log⟩ files with
      | (.error e, files) => (.error (.io e), ctx, { s with files := files })
      | (.ok code, files) =>
          (.ok code, { ctx with exitCode := some code }, { s with files := files })

/-- Checks the exit code of the last command; where none was run it counts as broken. -/
def checkExit (ctx : StepContext) (expectation : ExitExpectation) : Except Failure Unit :=
  let code := ctx.exitCode.getD (-1)
  match expectation with
  | .success =>
      if code = 0 then .ok ()
      else .error (.assertionFailed ("Exit code is " ++ toString code ++ ", but should be zero"))
  | .breaks =>
      if code = 0 then
        .error (.assertionFailed ("Exit code is " ++ toString code ++
          ", but should be non zero"))
      else .ok ()

def checkLog (ctx : StepContext) (files : Workspace) (ignore : Option Pattern) :
    Except Failure Unit :=
  LogReport.check ⟨ctx.log, Log.scan files ctx.log ignore⟩

/--
Checks that what the server has written to its log since the last check, or since the command was
started, is clean. Where no log is followed there is nothing to check.
-/
def checkServerLog (ctx : StepContext) (files : Workspace) : Except Failure Unit × StepContext :=
  match ctx.serverLog with
  | none => (.ok (), ctx)
  | some tail =>
      match tail.readNew files with
      | (.error e, tail) => (.error (.io e), { ctx with serverLog := some tail })
      | (.ok lines, tail) =>
          (LogReport.check ⟨tail.path, .ofLines none lines⟩, { ctx with serverLog := some tail })

def checkLogContains (ctx : StepContext) (files : Workspace) (pattern : String) :
    Except Failure Unit :=
  match Log.containsLine files ctx.log pattern with
  | .error e => .error e
  | .ok true => .ok ()
  | .ok false =>
      .error (.assertionFailed ("no line of " ++ ctx.log ++ " matches " ++ pattern))

end StepContext
end AnalysisHarness
