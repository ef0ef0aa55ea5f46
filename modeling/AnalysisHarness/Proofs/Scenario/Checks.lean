import AnalysisHarness.Proofs.Task.Polling
import AnalysisHarness.Scenario.Run

/-!
# The checks of a scenario

Once the command of a scenario has been run, the checks that are asked for are made one after
another. Each of them finds the disk, the log of the server and the answers as the ones before it
left them, and what it finds is written down whether or not the others find anything wrong.
-/

namespace AnalysisHarness

/-!
## Requests of a check
-/

namespace Measures

theorem requests_check (around : Surroundings) (server project : String)
    (expected : ExpectedSet) (s : Session) :
    (check around server project expected s).2.requests =
      s.requests ++ [measuresUrl server project expected.keys] := by
  unfold check fetch Surroundings.get
  cases around.answer s.requests.length (measuresUrl server project expected.keys) with
  | error e => exact Session.requests_record_request s _
  | ok body =>
      dsimp only
      cases readMeasures body <;> exact Session.requests_record_request s _

end Measures

namespace Scenario

theorem checkMeasures_requests (around : Surroundings) (runner : Runner)
    (expected : Except Failure Measures.ExpectedSet) (ctx : StepContext) (s : Session) :
    exists more, more.length ≤ 1 ∧
      (checkMeasures around runner expected ctx s).2.2.requests = s.requests ++ more := by
  cases expected with
  | error e => exact ⟨[], Nat.zero_le 1, (List.append_nil s.requests).symm⟩
  | ok expected =>
      have hone :=
        Measures.requests_check around runner.config.server.url ctx.project expected s
      refine ⟨_, ?_, hone⟩
      exact Nat.le_refl 1

/-- What a check does: it looks at the disk, or it is one of three that do more than that. -/
inductive Performs (around : Surroundings) (runner : Runner) : CheckAction -> Prop where
  | looking (check : StepContext -> Workspace -> Except Failure Unit) :
      Performs around runner (looking check)
  | backgroundTask : Performs around runner (checkBackgroundTask around runner)
  | serverLog : Performs around runner checkServerLog
  | measures (expected : Except Failure Measures.ExpectedSet) :
      Performs around runner (checkMeasures around runner expected)

section Performs

variable {around : Surroundings} {runner : Runner} {expect : Expectations}
variable {ignore : Option Pattern} {action : CheckAction}

theorem performs_of_checkOf? {kind : CheckKind}
    (h : checkOf? around runner expect ignore kind = some action) :
    Performs around runner action := by
  cases kind with
  | exitCode =>
      rcases Option.map_eq_some_iff.mp h with ⟨exit, _hexit, rfl⟩
      exact Performs.looking _
  | backgroundTask =>
      rcases Option.ite_none_right_eq_some.mp h with ⟨_hasked, haction⟩
      cases haction
      exact Performs.backgroundTask
  | analysisLog =>
      rcases Option.ite_none_right_eq_some.mp h with ⟨_hasked, haction⟩
      cases haction
      exact Performs.looking _
  | serverLog =>
      rcases Option.ite_none_right_eq_some.mp h with ⟨_hasked, haction⟩
      cases haction
      exact Performs.serverLog
  | logLine =>
      rcases Option.map_eq_some_iff.mp h with ⟨pattern, _hpattern, rfl⟩
      exact Performs.looking _
  | violations =>
      rcases Option.map_eq_some_iff.mp h with ⟨count, _hcount, rfl⟩
      exact Performs.measures _
  | metrics =>
      rcases Option.map_eq_some_iff.mp h with ⟨table, _htable, rfl⟩
      exact Performs.measures _
  | testMetrics =>
      rcases Option.map_eq_some_iff.mp h with ⟨values, _hvalues, rfl⟩
      exact Performs.measures _

theorem performs_of_mem_requested {check : Check}
    (h : check ∈ requested around runner expect ignore) : Performs around runner check.run := by
  rcases List.mem_filterMap.mp h with ⟨kind, _hkind, haction⟩
  rcases Option.map_eq_some_iff.mp haction with ⟨action, hkindAction, rfl⟩
  exact performs_of_checkOf? hkindAction

theorem grows_of_performs (h : Performs around runner action) (ctx : StepContext) (s : Session) :
    Session.Grows s (action ctx s).2.2 := by
  cases h with
  | looking check => exact Session.grows_refl s
  | backgroundTask =>
      exact Task.grows_waitForAnalysis around runner.config.pollSettings ctx.log s
  | serverLog => exact Session.grows_refl s
  | measures expected =>
      rcases checkMeasures_requests around runner expected ctx s with ⟨more, _hle, hmore⟩
      exact Session.grows_of_requests_eq_append hmore

end Performs

/-!
## Checks made one after another

The relation `Made` says what it means to make checks in a row: each is run on what the ones before
it left, and its own requests are the ones it adds.
-/

structure MadeCheck where
  name : String
  result : Except Failure Unit
  requests : List String

/-- Checks, each with its name, lead from one state to another one. -/
inductive Made : List (String × CheckAction) -> StepContext -> Session ->
    List MadeCheck -> StepContext -> Session -> Prop where
  | none (ctx : StepContext) (s : Session) : Made [] ctx s [] ctx s
  | next {name : String} {action : CheckAction} {checks : List (String × CheckAction)}
      {result : Except Failure Unit} {requests : List String} {made : List MadeCheck}
      {ctx ctx' ctx'' : StepContext} {s s' s'' : Session} :
      action ctx s = (result, ctx', s') ->
      s'.requests = s.requests ++ requests ->
      Made checks ctx' s' made ctx'' s'' ->
      Made ((name, action) :: checks) ctx s (⟨name, result, requests⟩ :: made) ctx'' s''

section Made

variable {checks : List (String × CheckAction)} {made : List MadeCheck}
variable {ctx ctx' : StepContext} {s s' : Session}

/-- Every check is made once and in its place. -/
theorem names_of_made (h : Made checks ctx s made ctx' s') :
    made.map MadeCheck.name = checks.map Prod.fst := by
  induction h with
  | none ctx s => rfl
  | next _haction _hrequests _hrest ih => rw [List.map_cons, List.map_cons, ih]

theorem requests_of_made (h : Made checks ctx s made ctx' s') :
    s'.requests = s.requests ++ made.flatMap MadeCheck.requests := by
  induction h with
  | none ctx s => simp
  | next _haction hrequests _hrest ih =>
      rw [ih, hrequests, List.append_assoc, List.flatMap_cons]

theorem exists_run_of_mem_made (h : Made checks ctx s made ctx' s') {m : MadeCheck}
    (hm : m ∈ made) :
    exists action before t,
      (m.name, action) ∈ checks ∧
      (action before t).1 = m.result ∧
      (action before t).2.2.requests = t.requests ++ m.requests := by
  induction h with
  | none ctx s => cases hm
  | next haction hrequests _hrest ih =>
      rename_i name action checks result requests made ctx ctx' ctx'' s s' s''
      cases hm with
      | head =>
          refine ⟨action, ctx, s, List.mem_cons_self, ?_, ?_⟩
          · rw [haction]
          · rw [haction]
            exact hrequests
      | tail _ hrest =>
          rcases ih hrest with ⟨later, before, t, hmem, hresult, hadded⟩
          exact ⟨later, before, t, List.mem_cons_of_mem _ hmem, hresult, hadded⟩

end Made

/-- The name and the action of a check. -/
def Check.named (check : Check) : String × CheckAction :=
  (check.kind.name, check.run)

/-- Running checks makes all of them, whatever each of them finds. -/
theorem made_of_runChecks [Wording] {checks : List Check}
    (hgrows : forall check, check ∈ checks ->
      forall ctx s, Session.Grows s (check.run ctx s).2.2)
    (ctx : StepContext) (s : Session) :
    exists made,
      Made (checks.map Check.named) ctx s made
        (runChecks checks ctx s).2.1 (runChecks checks ctx s).2.2 ∧
      (runChecks checks ctx s).1.map (fun c => (c.kind.name, c.failure)) =
        made.map fun m => (m.name, failureText m.result) := by
  induction checks generalizing ctx s with
  | nil => exact ⟨[], Made.none ctx s, rfl⟩
  | cons check checks ih =>
      have hfirst := hgrows check List.mem_cons_self ctx s
      cases hrun : check.run ctx s with
      | mk result left =>
          cases left with
          | mk ctx' s' =>
              rw [hrun] at hfirst
              have hrest : forall later, later ∈ checks ->
                  forall ctx s, Session.Grows s (later.run ctx s).2.2 := by
                intro later hlater
                exact hgrows later (List.mem_cons_of_mem check hlater)
              rcases ih hrest ctx' s' with ⟨made, hmade, hresults⟩
              refine ⟨⟨check.kind.name, result, Session.added s s'⟩ :: made, ?_, ?_⟩
              · simp only [runChecks, hrun]
                exact Made.next hrun (Session.requests_eq_append_added hfirst) hmade
              · simp only [runChecks, hrun, List.map_cons]
                rw [hresults]

/-!
## The checks that are asked for

There are eight checks, each asked for by a field of the expectations, in a fixed order.
-/

/-- The eight checks in order, each under its name if the scenario asks for it. -/
def slots (around : Surroundings) (runner : Runner) (expect : Expectations)
    (ignore : Option Pattern) : List (Option (String × CheckAction)) := [
    expect.exit.map fun exit =>
      ("exit code", fun ctx s => (ctx.checkExit exit, ctx, s)),
    if expect.backgroundTask then
      some ("background task", checkBackgroundTask around runner)
    else none,
    if expect.logClean then
      some ("analysis log", fun ctx s => (ctx.checkLog s.files ignore, ctx, s))
    else none,
    if expect.serverLogClean then some ("server log", checkServerLog) else none,
    expect.logContains.map fun pattern =>
      ("log line", fun ctx s => (ctx.checkLogContains s.files pattern, ctx, s)),
    expect.violations.map fun count =>
      ("violations", checkMeasures around runner (.ok (Measures.expectedViolations count))),
    expect.metrics.map fun table =>
      ("metrics", checkMeasures around runner (expectedMetrics table)),
    expect.testMetrics.map fun values =>
      ("test metrics", checkMeasures around runner (Measures.expectedTestMetrics values))]

def askedFor (around : Surroundings) (runner : Runner) (expect : Expectations)
    (ignore : Option Pattern) : List (String × CheckAction) :=
  (slots around runner expect ignore).filterMap id

def checkTable (expect : Expectations) : List (String × Bool) := [
  ("exit code", expect.exit.isSome),
  ("background task", expect.backgroundTask),
  ("analysis log", expect.logClean),
  ("server log", expect.serverLogClean),
  ("log line", expect.logContains.isSome),
  ("violations", expect.violations.isSome),
  ("metrics", expect.metrics.isSome),
  ("test metrics", expect.testMetrics.isSome)]

def askedNames (expect : Expectations) : List String :=
  ((checkTable expect).filter Prod.snd).map Prod.fst

theorem filterMap_id_map {α β : Type} (f : α -> Option β) (xs : List α) :
    (xs.map f).filterMap id = xs.filterMap f := by
  rw [List.filterMap_map]
  rfl

theorem named_requested (around : Surroundings) (runner : Runner) (expect : Expectations)
    (ignore : Option Pattern) :
    (requested around runner expect ignore).map Check.named =
      askedFor around runner expect ignore := by
  have hslots : allKinds.map (fun kind =>
      ((checkOf? around runner expect ignore kind).map fun run => Check.mk kind run).map
        Check.named) = slots around runner expect ignore := by
    simp only [allKinds, List.map_cons, List.map_nil, checkOf?, Option.map_map]
    simp only [apply_ite (Option.map _), Option.map_some, Option.map_none]
    rfl
  rw [requested, List.map_filterMap, askedFor, ← hslots, filterMap_id_map]

theorem map_const_eq_ite {α β : Type} (o : Option α) (b : β) :
    o.map (fun _ => b) = if o.isSome then some b else none := by
  cases o <;> rfl

theorem names_askedFor (around : Surroundings) (runner : Runner) (expect : Expectations)
    (ignore : Option Pattern) :
    (askedFor around runner expect ignore).map Prod.fst = askedNames expect := by
  have hslots : (slots around runner expect ignore).map (Option.map Prod.fst) =
      (checkTable expect).map fun entry => if entry.2 then some entry.1 else none := by
    simp only [slots, checkTable, List.map_cons, List.map_nil, Option.map_map]
    simp only [apply_ite (Option.map _), Option.map_some, Option.map_none, ← map_const_eq_ite]
    rfl
  have htable : forall table : List (String × Bool),
      (table.map fun entry => if entry.2 then some entry.1 else none).filterMap id =
        (table.filter Prod.snd).map Prod.fst := by
    intro table
    induction table with
    | nil => rfl
    | cons entry table ih =>
        rw [List.map_cons, List.filterMap_cons, List.filter_cons, ih]
        cases entry.2 <;> rfl
  rw [askedNames, ← htable, ← hslots, askedFor, List.map_filterMap, filterMap_id_map]
  rfl

theorem nodup_askedNames (expect : Expectations) : (askedNames expect).Nodup := by
  have hsublist : (askedNames expect).Sublist ((checkTable expect).map Prod.fst) :=
    List.filter_sublist.map Prod.fst
  have hall : ((checkTable expect).map Prod.fst).Nodup := by
    simp [checkTable]
  exact hsublist.nodup hall

theorem eq_of_optional_slot {α : Type} {o : Option α} {name label : String}
    {action : CheckAction} {f : α -> CheckAction}
    (h : some (name, action) = o.map fun a => (label, f a)) :
    name = label ∧ exists a, action = f a := by
  rcases Option.map_eq_some_iff.mp h.symm with ⟨a, _ha, heq⟩
  cases heq
  exact ⟨rfl, a, rfl⟩

theorem eq_of_switched_slot {b : Bool} {name label : String} {action chosen : CheckAction}
    (h : some (name, action) = if b then some (label, chosen) else none) :
    name = label := by
  cases b with
  | false => cases h
  | true =>
      cases h
      rfl

theorem checkMeasures_of_mem_askedFor {around : Surroundings} {runner : Runner}
    {expect : Expectations} {ignore : Option Pattern} {name : String} {action : CheckAction}
    (h : (name, action) ∈ askedFor around runner expect ignore)
    (hname : name ∈ ["violations", "metrics", "test metrics"]) :
    exists expected, action = checkMeasures around runner expected := by
  rcases List.mem_filterMap.mp h with ⟨slot, hslot, rfl⟩
  simp only [slots, List.mem_cons, List.not_mem_nil, or_false] at hslot
  rcases hslot with hexit | htask | hlog | hserver | hline | hviolations | hmetrics | htests
  · rw [(eq_of_optional_slot hexit).1] at hname
    exact absurd hname (by decide)
  · rw [eq_of_switched_slot htask] at hname
    exact absurd hname (by decide)
  · rw [eq_of_switched_slot hlog] at hname
    exact absurd hname (by decide)
  · rw [eq_of_switched_slot hserver] at hname
    exact absurd hname (by decide)
  · rw [(eq_of_optional_slot hline).1] at hname
    exact absurd hname (by decide)
  · rcases eq_of_optional_slot hviolations with ⟨_hlabel, count, haction⟩
    exact ⟨_, haction⟩
  · rcases eq_of_optional_slot hmetrics with ⟨_hlabel, table, haction⟩
    exact ⟨_, haction⟩
  · rcases eq_of_optional_slot htests with ⟨_hlabel, values, haction⟩
    exact ⟨_, haction⟩

/-!
## A whole run
-/

theorem failureText_eq_none_iff [Wording] (result : Except Failure Unit) :
    failureText result = none <-> result = .ok () := by
  cases result with
  | error e => simp [failureText]
  | ok u => simp [failureText]

theorem passed_iff [Wording] {report : RunReport} {made : List MadeCheck}
    (h : report.checks.map (fun c => (c.kind.name, c.failure)) =
      made.map fun m => (m.name, failureText m.result)) :
    report.passed = true <-> forall m, m ∈ made -> m.result = .ok () := by
  have hpassed : report.passed =
      (report.checks.map fun c => (c.kind.name, c.failure)).all fun p => p.2.isNone := by
    rw [List.all_map]
    rfl
  rw [hpassed, h, List.all_map, List.all_eq_true]
  constructor
  · intro hall m hm
    exact (failureText_eq_none_iff m.result).mp (Option.isNone_iff_eq_none.mp (hall m hm))
  · intro hall m hm
    exact Option.isNone_iff_eq_none.mpr ((failureText_eq_none_iff m.result).mpr (hall m hm))

theorem requests_runCommand (around : Surroundings) (command : String) (home : Option String)
    (ctx : StepContext) (s : Session) :
    (ctx.runCommand around command home s).2.2.requests = s.requests := by
  unfold StepContext.runCommand
  dsimp only
  split
  · rfl
  · split <;> rfl

/--
Once its command has been run, a scenario comes to a report. The report names the checks that are
asked for, in order, each with what is wrong by its own run on what the ones before it left; the
requests are those of the checks in a row, and the scenario passes if every check does. What is
wrong is said in the words of the libraries where one of them refused a text. A check that waits
for a task without limits ends after `pollCount` requests, where the count of them ends.
-/
theorem run_makes_every_check_asked_for [Wording] (around : Surroundings) (runner : Runner)
    (scenario : Scenario) (s : Session) {start ctx : StepContext} {ignore : Option Pattern}
    {code : Int} {ran : Session}
    (hprepare : prepare runner scenario s.files = .ok (start, ignore))
    (hcommand : start.runCommand around scenario.command runner.serverHome s =
      (.ok code, ctx, ran)) :
    exists report made ctx' t,
      run around runner scenario s = (.ok report, t) ∧
      Made (askedFor around runner scenario.expect ignore) ctx ran made ctx' t ∧
      report.checks.map (fun c => (c.kind.name, c.failure)) =
        made.map (fun m => (m.name, failureText m.result)) ∧
      report.checks.map (fun c => c.kind.name) = askedNames scenario.expect ∧
      (askedNames scenario.expect).Nodup ∧
      t.requests = s.requests ++ made.flatMap MadeCheck.requests ∧
      (forall m, m ∈ made -> m.name ∈ ["violations", "metrics", "test metrics"] ->
        m.requests.length ≤ 1) ∧
      (report.passed = true <-> forall m, m ∈ made -> m.result = .ok ()) := by
  have hgrows : forall check, check ∈ requested around runner scenario.expect ignore ->
      forall ctx s, Session.Grows s (check.run ctx s).2.2 := by
    intro check hcheck
    exact grows_of_performs (performs_of_mem_requested hcheck)
  have hran : ran.requests = s.requests := by
    rw [← requests_runCommand around scenario.command runner.serverHome start s, hcommand]
  rcases made_of_runChecks hgrows ctx ran with ⟨made, hmade, hresults⟩
  rw [named_requested] at hmade
  cases hchecks : runChecks (requested around runner scenario.expect ignore) ctx ran with
  | mk results left =>
      cases left with
      | mk ctx' t =>
          rw [hchecks] at hmade hresults
          have hrun : run around runner scenario s =
              (.ok ⟨ctx'.project, ctx'.log, code, results⟩, t) := by
            unfold run
            rw [hprepare]
            dsimp only
            rw [hcommand]
            dsimp only
            rw [hchecks]
          refine ⟨_, made, ctx', t, hrun, hmade, hresults, ?_, nodup_askedNames scenario.expect,
            ?_, ?_, passed_iff hresults⟩
          · rw [← names_askedFor around runner scenario.expect ignore, ← names_of_made hmade]
            have hnames := congrArg (List.map Prod.fst) hresults
            rw [List.map_map, List.map_map] at hnames
            exact hnames
          · rw [requests_of_made hmade, hran]
          · intro m hm hname
            rcases exists_run_of_mem_made hmade hm with
              ⟨action, before, u, hasked, _hresult, hrequests⟩
            rcases checkMeasures_of_mem_askedFor hasked hname with ⟨expected, rfl⟩
            rcases checkMeasures_requests around runner expected before u with
              ⟨more, hle, hmore⟩
            rw [hmore] at hrequests
            rw [← List.append_cancel_left hrequests]
            exact hle

def sampleDisk : Workspace where
  nodes := [.directory 0 (.mk [("testdata", 1)]), .directory 0 (.mk [("proj", 2)]),
    .directory 1 .empty]
  current := 0

def sampleScenario : Scenario where
  project := "proj"
  command := "true"
  expect := { Expectations.none with
    exit := some .breaks
    logClean := true
    logContains := some "("
    violations := some (.finite false 0 0) }

def sampleStart : StepContext where
  project := "proj"
  projectDir := "./testdata/proj"
  log := "./_proj_.log"
  exitCode := none
  serverLog := none

def sampleLeft : Workspace :=
  (sampleDisk.addNode (.file [])).1.putEntry 0 "_proj_.log" 3

def brokenServer : Surroundings := .scripted [.ok "\x7b"]

attribute [local instance] Wording.sample

theorem run_makes_four_checks :
    prepare (.inDirectory .default "." none) sampleScenario sampleDisk =
      .ok (sampleStart, none) ∧
    sampleStart.runCommand brokenServer "true" none (.start sampleDisk) =
      (.ok 0, { sampleStart with exitCode := some 0 }, .start sampleLeft) ∧
    exists report made ctx' t,
      run brokenServer (.inDirectory .default "." none) sampleScenario (.start sampleDisk) =
        (.ok report, t) ∧
      Made (askedFor brokenServer (.inDirectory .default "." none) sampleScenario.expect none)
        { sampleStart with exitCode := some 0 } (.start sampleLeft) made ctx' t ∧
      report.checks.map (fun c => (c.kind.name, c.failure)) =
        made.map (fun m => (m.name, failureText m.result)) ∧
      report.checks.map (fun c => (c.kind.name, c.failure)) =
        [("exit code", some "Exit code is 0, but should be non zero"),
          ("analysis log", none),
          ("log line", some ("invalid log pattern: regex parse error:\n    ^(?:()\n     ^\n" ++
            "error: unclosed group")),
          ("violations", some "json error: EOF while parsing an object at line 1 column 1")] ∧
      t.requests = made.flatMap MadeCheck.requests ∧
      (report.passed = true <-> forall m, m ∈ made -> m.result = .ok ()) := by
  have hprepare : prepare (.inDirectory .default "." none) sampleScenario sampleDisk =
      .ok (sampleStart, none) := by
    rfl
  have hcommand : sampleStart.runCommand brokenServer "true" none (.start sampleDisk) =
      (.ok 0, { sampleStart with exitCode := some 0 }, .start sampleLeft) := by
    rfl
  rcases run_makes_every_check_asked_for brokenServer (.inDirectory .default "." none)
    sampleScenario (.start sampleDisk) hprepare hcommand with
    ⟨report, made, ctx', t, hrun, hmade, hresults, _hnames, _hnodup, hrequests, _hone, hpassed⟩
  have hreport := congrArg (fun ended => ended.1.toOption.map fun report =>
    report.checks.map fun c => (c.kind.name, c.failure)) hrun
  refine ⟨hprepare, hcommand, report, made, ctx', t, hrun, hmade, hresults, ?_, hrequests,
    hpassed⟩
  refine Option.some.inj (hreport.symm.trans ?_)
  decide +kernel

end Scenario
end AnalysisHarness
