import AnalysisHarness.Proofs.Scenario.Checks
import AnalysisHarness.Proofs.Task.LastRound

/-!
# Scenarios that cannot start

Three things can keep a scenario from being started: its project is no directory, its ignore text
is no pattern, or the log of its command cannot be opened. Each of them is found out before
anything is done. Once the command has been run, there is a report.
-/

namespace AnalysisHarness

/-!
## Servers that stop answering

What is asked of a server that answers only so many requests is bounded by the answers, and not by
how often a status may be asked for.
-/

/-- Only requests with fewer than `bound` ones before them are answered. -/
def Surroundings.AnswersBelow (around : Surroundings) (bound : Nat) : Prop :=
  forall n url body, around.answer n url = .ok body -> n < bound

namespace Task

section Answers

variable {around : Surroundings} {settings : PollSettings} {url log : String}
variable {started n polls bound : Nat} {s t u : Session}

theorem length_requests_le_of_rounds (hanswers : around.AnswersBelow bound)
    (h : Rounds around settings url started n polls s t) :
    t.requests.length ≤ max bound s.requests.length := by
  induction h with
  | none polls s => exact Nat.le_max_right bound s.requests.length
  | @next n polls body s t _hlimit hanswer _hundecided _hrest ih =>
      have hbelow : s.requests.length < bound := hanswers _ _ _ hanswer
      rw [requests_answered, List.length_append, List.length_singleton] at ih
      omega

theorem length_requests_kept (around : Surroundings) (url log : String) (s : Session) :
    (kept around url log s).2.requests.length = s.requests.length + 1 := by
  rw [requests_kept, List.length_append, List.length_singleton]

theorem length_requests_waited_le (hanswers : around.AnswersBelow bound)
    {result : Except Failure (Option Outcome × Nat)}
    (hlast : LastRound around settings url log started polls t result u) :
    (waited around url log result u).2.requests.length ≤ max bound t.requests.length + 1 := by
  cases hlast with
  | limited _hlimit =>
      rw [waited, length_requests_kept]
      exact Nat.succ_le_succ (Nat.le_max_right bound t.requests.length)
  | refused _hlimit _hanswer =>
      rw [waited, requests_asked, List.length_append, List.length_singleton]
      exact Nat.succ_le_succ (Nat.le_max_right bound t.requests.length)
  | decided _hlimit hanswer _hdecides =>
      -- the request that decides is answered, so only the one for the log can go past the bound
      have hbelow : t.requests.length < bound := hanswers _ _ _ hanswer
      rw [waited, length_requests_kept, requests_answered, List.length_append,
        List.length_singleton]
      omega

/-- Waiting for a task goes past the answers by one request at most. -/
theorem length_requests_poll_le (hanswers : around.AnswersBelow bound)
    (settings : PollSettings) (url log : String) (s : Session) :
    (poll around settings url log s).2.requests.length ≤ max bound s.requests.length + 1 := by
  rcases rounds_or_lastRound around settings url log (around.clock s.journal) pollCount 0 s with
    ⟨t, hrounds⟩ | ⟨n, t, result, u, hn, hrounds, hlast⟩
  · -- even a waiting that runs out of counts has an answer for each of its rounds
    have hloop := pollLoop_of_rounds log 0 hrounds
    rw [poll_of_loop_ok hloop, length_requests_kept]
    exact Nat.succ_le_succ (length_requests_le_of_rounds hanswers hrounds)
  · rw [Nat.zero_add] at hlast
    rw [poll_of_lastRound hn hrounds hlast]
    have hsent := length_requests_le_of_rounds hanswers hrounds
    have hwaited := length_requests_waited_le hanswers hlast
    omega

theorem length_requests_waitForAnalysis_le (hanswers : around.AnswersBelow bound)
    (settings : PollSettings) (log : String) (s : Session) :
    (waitForAnalysis around settings log s).2.requests.length ≤
      max bound s.requests.length + 1 := by
  have hannounced := requests_announcedTask log s
  unfold waitForAnalysis
  cases htask : announcedTask log s with
  | mk url t =>
      rw [htask] at hannounced
      rw [← hannounced]
      dsimp only
      split
      · exact Nat.le_succ_of_le (Nat.le_max_right bound t.requests.length)
      · exact length_requests_poll_le hanswers settings url log t

end Answers

end Task

namespace Scenario

/-!
## What checks leave alone

A check may ask the server and may go on in its log, but the project and the log of the command
stay those that the scenario was started with.
-/

section Checks

variable {around : Surroundings} {runner : Runner} {action : CheckAction} {bound : Nat}

theorem project_and_log_of_performs (h : Performs around runner action) (ctx : StepContext)
    (s : Session) :
    (action ctx s).2.1.project = ctx.project ∧ (action ctx s).2.1.log = ctx.log := by
  cases h with
  | looking check => exact ⟨rfl, rfl⟩
  | backgroundTask => exact ⟨rfl, rfl⟩
  | serverLog =>
      unfold checkServerLog StepContext.checkServerLog
      cases ctx.serverLog with
      | none => exact ⟨rfl, rfl⟩
      | some tail =>
          dsimp only
          rcases tail.readNew s.files with ⟨e | lines, left⟩ <;> exact ⟨rfl, rfl⟩
  | measures expected => cases expected <;> exact ⟨rfl, rfl⟩

theorem length_requests_le_of_performs (hanswers : around.AnswersBelow bound)
    (h : Performs around runner action) (ctx : StepContext) (s : Session) :
    (action ctx s).2.2.requests.length ≤ max bound s.requests.length + 1 := by
  cases h with
  | looking check => exact Nat.le_succ_of_le (Nat.le_max_right bound s.requests.length)
  | backgroundTask =>
      exact Task.length_requests_waitForAnalysis_le hanswers runner.config.pollSettings ctx.log s
  | serverLog => exact Nat.le_succ_of_le (Nat.le_max_right bound s.requests.length)
  | measures expected =>
      rcases checkMeasures_requests around runner expected ctx s with ⟨more, hle, hmore⟩
      rw [hmore, List.length_append]
      omega

theorem runChecks_cons [Wording] (check : Check) (checks : List Check) (ctx : StepContext)
    (s : Session) :
    runChecks (check :: checks) ctx s =
      (⟨check.kind, failureText (check.run ctx s).1⟩ ::
          (runChecks checks (check.run ctx s).2.1 (check.run ctx s).2.2).1,
        (runChecks checks (check.run ctx s).2.1 (check.run ctx s).2.2).2) :=
  rfl

variable {checks : List Check}

theorem project_and_log_of_runChecks [Wording]
    (hperforms : forall check, check ∈ checks -> Performs around runner check.run)
    (ctx : StepContext) (s : Session) :
    (runChecks checks ctx s).2.1.project = ctx.project ∧
      (runChecks checks ctx s).2.1.log = ctx.log := by
  induction checks generalizing ctx s with
  | nil => exact ⟨rfl, rfl⟩
  | cons check checks ih =>
      have hfirst := project_and_log_of_performs (hperforms check List.mem_cons_self) ctx s
      have hrest := ih (fun later hlater => hperforms later (List.mem_cons_of_mem check hlater))
        (check.run ctx s).2.1 (check.run ctx s).2.2
      exact ⟨hrest.1.trans hfirst.1, hrest.2.trans hfirst.2⟩

theorem names_runChecks [Wording] (checks : List Check) (ctx : StepContext) (s : Session) :
    (runChecks checks ctx s).1.map (fun c => c.kind.name) =
      checks.map fun check => check.kind.name := by
  induction checks generalizing ctx s with
  | nil => rfl
  | cons check checks ih =>
      rw [runChecks_cons, List.map_cons, List.map_cons, ih]

theorem length_requests_runChecks_le [Wording] (hanswers : around.AnswersBelow bound)
    (hperforms : forall check, check ∈ checks -> Performs around runner check.run)
    (ctx : StepContext) (s : Session) :
    (runChecks checks ctx s).2.2.requests.length ≤
      max bound s.requests.length + (runChecks checks ctx s).1.length := by
  induction checks generalizing ctx s with
  | nil => exact Nat.le_max_right bound s.requests.length
  | cons check checks ih =>
      have hfirst :=
        length_requests_le_of_performs hanswers (hperforms check List.mem_cons_self) ctx s
      have hrest := ih (fun later hlater => hperforms later (List.mem_cons_of_mem check hlater))
        (check.run ctx s).2.1 (check.run ctx s).2.2
      simp only [runChecks_cons, List.length_cons]
      omega

end Checks

/-!
## Getting started
-/

def Runner.projectDir (runner : Runner) (project : String) : String :=
  Path.join runner.testdata project

def Runner.logFile (runner : Runner) (project : String) : String :=
  Path.join runner.logDir ("_" ++ project ++ "_.log")

def IgnoreReadable (scenario : Scenario) : Prop :=
  forall text, scenario.expect.logIgnore = some text ->
    exists ignore, Pattern.ofIgnoreText text = .ok ignore

/-- The first thing that keeps a scenario from being started, as the failure that it gives. -/
inductive Hindered (runner : Runner) (scenario : Scenario) (files : Workspace) :
    Failure -> Prop where
  | project :
      files.isDirectory (runner.projectDir scenario.project) = false ->
      Hindered runner scenario files (.pathNotFound (runner.projectDir scenario.project))
  | pattern {text : String} {e : Pattern.ReadError} :
      files.isDirectory (runner.projectDir scenario.project) = true ->
      scenario.expect.logIgnore = some text ->
      Pattern.ofIgnoreText text = .error e ->
      Hindered runner scenario files (.invalidPattern e)
  | log {e : IoError} :
      files.isDirectory (runner.projectDir scenario.project) = true ->
      scenario.IgnoreReadable ->
      files.create (runner.logFile scenario.project) = .error e ->
      Hindered runner scenario files (.io e)

/-- Nothing keeps a scenario from being started, once `log` is open on the disk `opened`. -/
structure Startable (runner : Runner) (scenario : Scenario) (files opened : Workspace)
    (log : NodeId) : Prop where
  project : files.isDirectory (runner.projectDir scenario.project) = true
  pattern : scenario.IgnoreReadable
  log : files.create (runner.logFile scenario.project) = .ok (opened, log)

section Start

variable {runner : Runner} {scenario : Scenario} {files opened : Workspace} {log : NodeId}

def startContext (runner : Runner) (project : String) : StepContext :=
  ⟨project, runner.projectDir project, runner.logFile project, none, none⟩

theorem forProject_eq (files : Workspace) (runner : Runner) (project : String) :
    StepContext.forProject files runner.testdata project runner.logDir =
      if files.isDirectory (runner.projectDir project) then .ok (startContext runner project)
      else .error (.pathNotFound (runner.projectDir project)) :=
  rfl

theorem exists_ignorePattern (h : scenario.IgnoreReadable) :
    exists ignore, ignorePattern scenario = .ok ignore := by
  unfold ignorePattern
  cases htext : scenario.expect.logIgnore with
  | none => exact ⟨none, rfl⟩
  | some text =>
      rcases h text htext with ⟨ignore, hignore⟩
      refine ⟨ignore, ?_⟩
      dsimp only
      rw [hignore]
      rfl

theorem prepare_of_isDirectory
    (hproject : files.isDirectory (runner.projectDir scenario.project) = true) :
    prepare runner scenario files =
      (ignorePattern scenario).map fun ignore =>
        (startContext runner scenario.project, ignore) := by
  unfold prepare
  rw [forProject_eq, if_pos hproject]
  cases ignorePattern scenario <;> rfl

theorem project_and_log_of_followServerLog (ctx : StepContext) (files : Workspace) (today : Date)
    (home : Option String) :
    (ctx.followServerLog files today home).project = ctx.project ∧
      (ctx.followServerLog files today home).projectDir = ctx.projectDir ∧
      (ctx.followServerLog files today home).log = ctx.log := by
  unfold StepContext.followServerLog
  cases home <;> exact ⟨rfl, rfl, rfl⟩

section Command

variable {around : Surroundings} {s : Session} (ctx : StepContext) (home : Option String)

theorem runCommand_of_create_error {e : IoError} (command : String)
    (hlog : s.files.create ctx.log = .error e) :
    exists ctx', ctx.runCommand around command home s = (.error (.io e), ctx', s) := by
  rcases project_and_log_of_followServerLog ctx s.files around.today home with
    ⟨_hproject, _hdirectory, hsame⟩
  refine ⟨ctx.followServerLog s.files around.today home, ?_⟩
  unfold StepContext.runCommand
  simp only [hsame, hlog]

theorem runCommand_of_shell {command : String} {code : Int} {left : Workspace}
    (hlog : s.files.create ctx.log = .ok (opened, log))
    (hshell : around.shell ⟨command, ctx.projectDir, log⟩ opened = (.ok code, left)) :
    exists ctx', ctx.runCommand around command home s = (.ok code, ctx', { s with files := left }) ∧
      ctx'.project = ctx.project ∧ ctx'.log = ctx.log := by
  rcases project_and_log_of_followServerLog ctx s.files around.today home with
    ⟨hproject, hdirectory, hsame⟩
  refine ⟨{ ctx.followServerLog s.files around.today home with exitCode := some code }, ?_,
    hproject, hsame⟩
  unfold StepContext.runCommand
  simp only [hsame, hlog, hdirectory, hshell]

end Command

theorem run_of_hindered [Wording] {e : Failure} {s : Session}
    (h : Hindered runner scenario s.files e) (around : Surroundings) :
    run around runner scenario s = (.error e, s) := by
  unfold run
  cases h with
  | project hproject =>
      have hprepare : prepare runner scenario s.files =
          .error (.pathNotFound (runner.projectDir scenario.project)) := by
        unfold prepare
        rw [forProject_eq, hproject]
        rfl
      rw [hprepare]
  | @pattern text e hproject htext hpattern =>
      have hignore : ignorePattern scenario = .error (.invalidPattern e) := by
        unfold ignorePattern
        rw [htext]
        dsimp only
        rw [hpattern]
        rfl
      rw [prepare_of_isDirectory hproject, hignore]
      rfl
  | @log e hproject hpattern hlog =>
      rcases exists_ignorePattern hpattern with ⟨ignore, hignore⟩
      rcases runCommand_of_create_error (startContext runner scenario.project) runner.serverHome
        scenario.command hlog with ⟨ctx, hcommand⟩
      rw [prepare_of_isDirectory hproject, hignore]
      dsimp only [Except.map]
      rw [hcommand]

theorem run_of_startable [Wording] {s : Session} (h : Startable runner scenario s.files opened log)
    {around : Surroundings} {code : Int} {left : Workspace}
    (hshell : around.shell ⟨scenario.command, runner.projectDir scenario.project, log⟩ opened =
      (.ok code, left)) :
    exists ignore ctx,
      run around runner scenario s =
        (.ok ⟨scenario.project, runner.logFile scenario.project, code,
          (runChecks (requested around runner scenario.expect ignore) ctx
            { s with files := left }).1⟩,
        (runChecks (requested around runner scenario.expect ignore) ctx
          { s with files := left }).2.2) := by
  rcases exists_ignorePattern h.pattern with ⟨ignore, hignore⟩
  rcases runCommand_of_shell (startContext runner scenario.project) runner.serverHome h.log
    hshell with ⟨ctx, hcommand, hproject, hlog⟩
  have hperforms : forall check, check ∈ requested around runner scenario.expect ignore ->
      Performs around runner check.run :=
    fun _ hcheck => performs_of_mem_requested hcheck
  have hkept := project_and_log_of_runChecks hperforms ctx { s with files := left }
  refine ⟨ignore, ctx, ?_⟩
  unfold run
  rw [prepare_of_isDirectory h.project, hignore]
  dsimp only [Except.map]
  rw [hcommand]
  dsimp only
  rw [hkept.1, hkept.2, hproject, hlog]
  rfl

theorem hindered_or_startable (runner : Runner) (scenario : Scenario) (files : Workspace) :
    (exists e, Hindered runner scenario files e) ∨
      exists opened log, Startable runner scenario files opened log := by
  cases hproject : files.isDirectory (runner.projectDir scenario.project) with
  | false => exact Or.inl ⟨_, Hindered.project hproject⟩
  | true =>
      by_cases hpattern : scenario.IgnoreReadable
      · cases hlog : files.create (runner.logFile scenario.project) with
        | error e => exact Or.inl ⟨_, Hindered.log hproject hpattern hlog⟩
        | ok created =>
            rcases created with ⟨opened, log⟩
            exact Or.inr ⟨opened, log, hproject, hpattern, hlog⟩
      · unfold IgnoreReadable at hpattern
        push Not at hpattern
        rcases hpattern with ⟨text, htext, hnone⟩
        cases hread : Pattern.ofIgnoreText text with
        | error e => exact Or.inl ⟨_, Hindered.pattern hproject htext hread⟩
        | ok ignore => exact absurd hread (hnone ignore)

end Start

/--
A scenario that something keeps from being started fails with that and leaves the session as it
was, whatever its command would do and the server would answer. Any other scenario comes to a
report as soon as the shell has run its command, however the command and the checks turn out. In
doing so it sends one request a check at most beyond those that the server answers. A check that
waits for a task without limits ends after `pollCount` requests, where the count of them ends.
-/
theorem run_starts_or_leaves_no_trace [Wording] (runner : Runner) (scenario : Scenario)
    (s : Session) :
    (forall e, Hindered runner scenario s.files e -> forall around,
      run around runner scenario s = (.error e, s)) ∧
    (forall opened log, Startable runner scenario s.files opened log ->
      forall (around : Surroundings) code left,
        around.shell ⟨scenario.command, runner.projectDir scenario.project, log⟩ opened =
          (.ok code, left) ->
        exists report t,
          run around runner scenario s = (.ok report, t) ∧
          report.project = scenario.project ∧
          report.log = runner.logFile scenario.project ∧
          report.exitCode = code ∧
          report.checks.map (fun c => c.kind.name) = askedNames scenario.expect ∧
          forall bound, around.AnswersBelow bound ->
            t.requests.length ≤ max bound s.requests.length + report.checks.length) ∧
    ((exists e, Hindered runner scenario s.files e) ∨
      exists opened log, Startable runner scenario s.files opened log) := by
  refine ⟨fun e hhindered around => run_of_hindered hhindered around, ?_,
    hindered_or_startable runner scenario s.files⟩
  intro opened log hstartable around code left hshell
  rcases run_of_startable hstartable hshell with ⟨ignore, ctx, hrun⟩
  refine ⟨_, _, hrun, rfl, rfl, rfl, ?_, ?_⟩
  · rw [← names_askedFor around runner scenario.expect ignore, ← named_requested, List.map_map]
    exact names_runChecks (requested around runner scenario.expect ignore) ctx _
  · intro bound hanswers
    exact length_requests_runChecks_le hanswers
      (fun check hcheck => performs_of_mem_requested hcheck) ctx { s with files := left }

def wreckingShell : Surroundings :=
  { Surroundings.scripted [] with shell := fun _call _files => (.ok 3, .empty) }

def occupiedDisk : Workspace :=
  (sampleDisk.addNode (.directory 0 .empty)).1.putEntry 0 "_proj_.log" 3

def malformedScenario : Scenario :=
  { sampleScenario with
    expect := { Expectations.none with
      logContains := some "("
      metrics := some [("ncloc", .boolean true)]
      testMetrics := some "1,2" } }

attribute [local instance] Wording.sample

theorem run_keeps_disk_or_reports :
    run wreckingShell (.inDirectory .default "." none) { sampleScenario with project := "gone" }
        (.start sampleDisk) =
      (.error (.pathNotFound "./testdata/gone"), .start sampleDisk) ∧
    run wreckingShell (.inDirectory .default "." none)
        { sampleScenario with expect := { Expectations.none with logIgnore := some "(" } }
        (.start sampleDisk) =
      (.error (.invalidPattern ⟨.unclosedGroup, "^(?:()"⟩), .start sampleDisk) ∧
    run wreckingShell (.inDirectory .default "." none) sampleScenario (.start occupiedDisk) =
      (.error (.io .isDirectory), .start occupiedDisk) ∧
    exists report t,
      run wreckingShell (.inDirectory .default "." none) malformedScenario (.start sampleDisk) =
        (.ok report, t) ∧
      report.exitCode = 3 ∧
      report.checks.map (fun c => c.kind.name) = ["log line", "metrics", "test metrics"] := by
  refine ⟨?_, ?_, ?_, ?_⟩
  · have hhindered : Hindered (.inDirectory .default "." none)
        { sampleScenario with project := "gone" } sampleDisk
        (.pathNotFound "./testdata/gone") := .project rfl
    exact (run_starts_or_leaves_no_trace _ _ (.start sampleDisk)).1 _ hhindered wreckingShell
  · have hhindered : Hindered (.inDirectory .default "." none)
        { sampleScenario with expect := { Expectations.none with logIgnore := some "(" } }
        sampleDisk (.invalidPattern ⟨.unclosedGroup, "^(?:()"⟩) := .pattern rfl rfl (by decide)
    exact (run_starts_or_leaves_no_trace _ _ (.start sampleDisk)).1 _ hhindered wreckingShell
  · have hhindered : Hindered (.inDirectory .default "." none) sampleScenario occupiedDisk
        (.io .isDirectory) := .log rfl (fun _text htext => by cases htext) rfl
    exact (run_starts_or_leaves_no_trace _ _ (.start occupiedDisk)).1 _ hhindered wreckingShell
  · have hstartable : Startable (.inDirectory .default "." none) malformedScenario sampleDisk
        sampleLeft 3 := ⟨rfl, (fun _text htext => by cases htext), rfl⟩
    rcases (run_starts_or_leaves_no_trace _ _ (.start sampleDisk)).2.1 sampleLeft 3 hstartable
      wreckingShell 3 .empty rfl with
      ⟨report, t, hrun, _hproject, _hlog, hcode, hnames, _hrequests⟩
    exact ⟨report, t, hrun, hcode, hnames⟩

end Scenario
end AnalysisHarness
