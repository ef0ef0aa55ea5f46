import AnalysisHarness.CommandLine.Command
import AnalysisHarness.Config.Layers
import AnalysisHarness.Measures.Entries
import AnalysisHarness.Report.LogReport
import AnalysisHarness.Scenario.Run
import AnalysisHarness.ServerLog.Folder

/-!
# Carrying out commands

A command prints something and ends well, with a failed check, or early. Its exit code tells these
apart; why it ended early is said apart from what it prints.
-/

namespace AnalysisHarness

/-- The words where no library is asked. -/
instance : Wording where
  pattern text := "this is not a pattern: " ++ text
  json _ := "this is not JSON"
  document _ := "TOML parse error"
  scenario _ := "TOML parse error"
  settings _ := "invalid value"

inductive Ending where
  | success
  | checkFailed
  deriving DecidableEq, Repr

namespace Ending

def ofBool (good : Bool) : Ending := if good then success else checkFailed

def exitCode : Ending -> Nat
  | success => 0
  | checkFailed => 1

end Ending

def Failure.exitCode (f : Failure) : Nat := if f.isCheckFailure then 1 else 3

def Failure.announcement [Wording] (p : Palette) (f : Failure) : String :=
  if f.isCheckFailure then p.failedWord ++ ": " ++ f.message else "error: " ++ f.message

structure Completion where
  printed : String
  result : Except Failure Ending
  session : Session

namespace Completion

def exitCode (c : Completion) : Nat :=
  match c.result with
  | .ok ending => ending.exitCode
  | .error e => e.exitCode

def complaint [Wording] (p : Palette) (c : Completion) : String :=
  match c.result with
  | .ok _ => ""
  | .error e => e.announcement p ++ "\n"

def failed (e : Failure) (s : Session) : Completion := ⟨"", .error e, s⟩

def within (source : Except Failure α) (s : Session) (go : α -> Completion) : Completion :=
  match source with
  | .error e => failed e s
  | .ok a => go a

end Completion

namespace CommandLine

def printLines (lines : List String) : String := String.join (lines.map fun line => line ++ "\n")

def indented (line : String) : String := "    " ++ line

def readIgnoreFile (files : Workspace) : Option String -> Except Failure (Option Pattern)
  | none => .ok none
  | some path => do
      let text ← Failure.ofIo (files.readText path)
      Failure.ofPattern (Pattern.ofIgnoreText text)

def homeAround (around : Surroundings) : Option String :=
  ServerLog.homeOf (around.environment ServerLog.homeVariable)

def resolveHome (around : Surroundings) (home : Option String) : Except Failure String :=
  match home <|> homeAround around with
  | some home => .ok home
  | none =>
      .error (.configParse ("server home unknown: pass --home or set " ++ ServerLog.homeVariable))

def showReport (p : Palette) (r : LogReport) : ReportFormat -> String
  | .text => r.toText p
  | .json => r.toJson

def reportLog (p : Palette) (log : String) (ignore : Option Pattern) (format : ReportFormat)
    (s : Session) : Completion :=
  let report : LogReport := ⟨log, Log.scan s.files log ignore⟩
  ⟨printLines [showReport p report format], .ok (.ofBool report.isClean), s⟩

def serverLogSource (around : Surroundings) (home ignoreFile : Option String) (s : Session) :
    Except Failure (String × Option Pattern) := do
  let home ← resolveHome around home
  let ignore ← readIgnoreFile s.files ignoreFile
  pure (ServerLog.dailyFile home around.today, ignore)

def pollLines (p : Palette) (r : Task.PollReport) : List String :=
  match r.outcome with
  | .skipped => [indented "no background task found in log"]
  | .success =>
      indented ("background task " ++ p.okWord ++ " after " ++ toString r.polls ++ " poll(s)") ::
        r.serverLog.toList.map fun path => indented ("server log: " ++ path)
  | .failed _ => []

def pollEnding (r : Task.PollReport) : Except Failure Ending :=
  match r.outcome with
  | .failed message => .error (.taskFailed message)
  | .success => .ok .success
  | .skipped => .ok .success

def waitSettings [Wording] (around : Surroundings) (log root : String) (s : Session) :
    Except Failure Config :=
  if s.files.exists? log then Config.load s.files around.environment root
  else .error (.pathNotFound log)

def waitForTask (around : Surroundings) (p : Palette) (log : String) (config : Config)
    (s : Session) : Completion :=
  let heading := indented (p.emphasize ("Read Log : " ++ log))
  match Task.waitForAnalysis around config.pollSettings log s with
  | (.error e, s) => ⟨printLines [heading], .error e, s⟩
  | (.ok report, s) => ⟨printLines (heading :: pollLines p report), pollEnding report, s⟩

def measuresSource [Wording] (around : Surroundings) (entries : List String)
    (testValues : Option String)
    (root : String) (s : Session) : Except Failure (Measures.ExpectedSet × Config) := do
  let expected ← Measures.expectedFromEntries testValues entries
  let config ← Config.load s.files around.environment root
  pure (expected, config)

def compareMeasures (around : Surroundings) (p : Palette) (project : String)
    (expected : Measures.ExpectedSet) (config : Config) (s : Session) : Completion :=
  match Measures.check around config.server.url project expected s with
  | (.error e, s) => .failed e s
  | (.ok (), s) =>
      ⟨printLines [indented ("measures of " ++ project ++ " ... " ++ p.okWord)], .ok .success, s⟩

def checkLines (p : Palette) (c : Scenario.CheckResult) : List String :=
  match c.failure with
  | none => [indented (c.kind.name ++ " ... " ++ p.okWord)]
  | some failure =>
      indented (c.kind.name ++ " ... " ++ p.failedWord) ::
        (Log.linesOf failure).map fun line => indented (indented line)

def scenarioLines (p : Palette) (r : Scenario.RunReport) : List String :=
  ("scenario " ++ r.project ++ " (exit code " ++ toString r.exitCode ++ ", log " ++ r.log ++ ")") ::
    r.checks.flatMap (checkLines p)

def scenarioSource [Wording] (around : Surroundings) (scenario root : String) (s : Session) :
    Except Failure (Config × Scenario) := do
  let config ← Config.load s.files around.environment root
  let scenario ← Scenario.load s.files scenario
  pure (config, scenario)

def runScenario [Wording] (around : Surroundings) (p : Palette) (runner : Scenario.Runner)
    (scenario : Scenario) (s : Session) : Completion :=
  match Scenario.run around runner scenario s with
  | (.error e, s) => .failed e s
  | (.ok report, s) => ⟨printLines (scenarioLines p report), .ok (.ofBool report.passed), s⟩

def cleanupLogs (p : Palette) (home : String) (s : Session) : Completion :=
  match ServerLog.cleanup s.files home with
  | (.error e, files) => .failed (.io e) { s with files := files }
  | (.ok removed, files) =>
      let line := "cleaning logs ... " ++ p.okWord ++ " (" ++ toString removed ++ " removed)"
      ⟨printLines [indented line], .ok .success, { s with files := files }⟩

def dumpLogs (home : String) (s : Session) : Completion :=
  let heading := indented "print logs ... "
  match ServerLog.dump s.files home with
  | .error e => ⟨printLines [heading], .error (.io e), s⟩
  | .ok text => ⟨printLines [heading, text], .ok .success, s⟩

end CommandLine

open CommandLine

def Command.execute [Wording] (around : Surroundings) (p : Palette) (s : Session) :
    Command -> Completion
  | checkLog log ignoreFile format =>
      .within (readIgnoreFile s.files ignoreFile) s fun ignore =>
        reportLog p log ignore format s
  | serverLog home ignoreFile format =>
      .within (serverLogSource around home ignoreFile s) s fun (log, ignore) =>
        reportLog p log ignore format s
  | wait log root =>
      .within (waitSettings around log root s) s fun config =>
        waitForTask around p log config s
  | measures project entries testValues root =>
      .within (measuresSource around entries testValues root s) s
        fun (expected, config) => compareMeasures around p project expected config s
  | run scenario home root =>
      .within (scenarioSource around scenario root s) s fun (config, scenario) =>
        let runner := Scenario.Runner.inDirectory config root (home <|> homeAround around)
        runScenario around p runner scenario s
  | cleanupLogs home =>
      .within (resolveHome around home) s fun home =>
        CommandLine.cleanupLogs p home s
  | dumpLogs home =>
      .within (resolveHome around home) s fun home => CommandLine.dumpLogs home s

end AnalysisHarness
