import AnalysisHarness.Proofs.Task.Polling
import AnalysisHarness.Proofs.Workspace.Write

/-!
# Storing the log of a task

Once the waiting has ended, the log that the server kept is asked for and stored. The way the
waiting ends is settled by then: it is the same for every answer to that request and on every disk.
This module compares runs that differ in nothing else, and says what the last request leaves behind.
-/

namespace AnalysisHarness

def Surroundings.answering (around : Surroundings) (before : Nat)
    (answer : Except Failure String) : Surroundings :=
  { around with answer := fun n url => if n = before then answer else around.answer n url }

def Session.on (s : Session) (files : Workspace) : Session := { s with files := files }

namespace Task

/-!
## How the waiting ends
-/

/--
Asking for the status ends: with the end of the task, or without it at a limit. The number is that
of the requests, and the session the one after the last of them.
-/
inductive StatusEnds (around : Surroundings) (settings : PollSettings) (url log : String)
    (s : Session) : Option Outcome -> Nat -> Session -> Prop where
  | decided {n : Nat} {body : String} {outcome : Outcome} {t : Session} :
      n + 1 < pollCount ->
      Rounds around settings url (around.clock s.journal) n 0 s t ->
      limitReached around settings (around.clock s.journal) n t = false ->
      around.answer t.requests.length url = .ok body ->
      Decides log (.ok body) (.ok outcome) ->
      StatusEnds around settings url log s (some outcome) (n + 1) (answered settings url body n t)
  | limited {n : Nat} {t : Session} :
      n < pollCount ->
      Rounds around settings url (around.clock s.journal) n 0 s t ->
      limitReached around settings (around.clock s.journal) n t = true ->
      StatusEnds around settings url log s none n t

def verdict (polls : Nat) : Option Outcome -> Except Failure (Outcome × Nat)
  | some outcome => .ok (outcome, polls)
  | none => .error (.pollTimeout polls)

theorem map_reported (polls : Nat) (stored : Option String) (ended : Option Outcome) :
    (reported polls stored ended).map (fun report => (report.outcome, report.polls)) =
      verdict polls ended := by
  cases ended <;> rfl

theorem serverLog_of_reported {polls : Nat} {stored named : Option String} {ended : Option Outcome}
    (hstored : stored = named) (report : PollReport)
    (h : reported polls stored ended = .ok report) : report.serverLog = named := by
  cases ended with
  | none => cases h
  | some outcome =>
      cases h
      exact hstored

section Ends

variable {around : Surroundings} {settings : PollSettings} {url log : String}
variable {s t : Session} {ended : Option Outcome} {polls : Nat}

theorem poll_of_statusEnds (h : StatusEnds around settings url log s ended polls t) :
    poll around settings url log s =
      (reported polls (kept around url log t).1 ended, (kept around url log t).2) := by
  cases h with
  | decided hcount hrounds hlimit hanswer hdecides =>
      have hbound := Nat.lt_of_succ_lt hcount
      exact poll_of_loop_ok (pollLoop_of_outcome hrounds hbound hlimit hanswer hdecides)
  | limited hcount hrounds hlimit =>
      exact poll_of_loop_ok (pollLoop_of_limit log hrounds hcount hlimit)

theorem exists_message_of_decides {body message : String}
    (h : Decides log (.ok body) (.ok (.failed message))) :
    exists front, message = front ++ (log ++ ".server") := by
  cases h with
  | failed _hread _hstatus =>
      exact ⟨"BACKGROUND TASK AS FAILED. CHECK SERVER : ", String.append_assoc ..⟩

theorem exists_message_of_statusEnds {message : String}
    (h : StatusEnds around settings url log s (some (.failed message)) polls t) :
    exists front, message = front ++ (log ++ ".server") := by
  cases h with
  | decided _hcount _hrounds _hlimit _hanswer hdecides => exact exists_message_of_decides hdecides

/-!
## Runs that differ in the last answer and the disk
-/

theorem answered_on (body : String) (polls : Nat) (s : Session) (files : Workspace) :
    answered settings url body polls (s.on files) =
      (answered settings url body polls s).on files := by
  unfold answered asked
  split <;> rfl

theorem length_requests_of_rounds {started n : Nat}
    (h : Rounds around settings url started n polls s t) :
    t.requests.length = s.requests.length + n := by
  rw [requests_of_rounds h, List.length_append, List.length_replicate]

/-- Rounds do not depend on answers to later requests, nor on the disk. -/
theorem rounds_answering {started n before : Nat} (answer : Except Failure String)
    (files : Workspace) (h : Rounds around settings url started n polls s t)
    (hbefore : t.requests.length ≤ before) :
    Rounds (around.answering before answer) settings url started n polls (s.on files)
      (t.on files) := by
  induction h with
  | none polls s => exact Rounds.none polls (s.on files)
  | @next n polls body s t hlimit hanswer hundecided hrest ih =>
      have hearlier : s.requests.length ≠ before := by
        have hlength := length_requests_of_rounds hrest
        rw [requests_answered, List.length_append, List.length_singleton] at hlength
        omega
      have hsame : (around.answering before answer).answer (s.on files).requests.length url =
          .ok body := (if_neg hearlier).trans hanswer
      refine Rounds.next hlimit hsame hundecided ?_
      rw [answered_on]
      exact ih hbefore

theorem statusEnds_answering (answer : Except Failure String) (files : Workspace)
    (h : StatusEnds around settings url log s ended polls t) :
    StatusEnds (around.answering t.requests.length answer) settings url log (s.on files) ended polls
      (t.on files) := by
  cases h with
  | @decided n body outcome t hcount hrounds hlimit hanswer hdecides =>
      have hlater : t.requests.length < (answered settings url body n t).requests.length := by
        rw [requests_answered, List.length_append, List.length_singleton]
        exact Nat.lt_succ_self _
      have hsame : (around.answering (answered settings url body n t).requests.length answer).answer
          (t.on files).requests.length url = .ok body :=
        (if_neg (Nat.ne_of_lt hlater)).trans hanswer
      rw [← answered_on]
      exact .decided hcount
        (rounds_answering answer files hrounds (Nat.le_of_lt hlater)) hlimit hsame
        hdecides
  | limited hcount hrounds hlimit =>
      exact .limited hcount (rounds_answering answer files hrounds (Nat.le_refl _)) hlimit

/-!
## What is left behind
-/

theorem kept_of_refused {e : Failure}
    (h : around.answer t.requests.length (serverLogsUrl url) = .error e) :
    (kept around url log t).1 = none ∧ (kept around url log t).2.files = t.files := by
  simp [kept, storeServerLog, Surroundings.get, h]

theorem kept_of_unwritable {body : String} {e : IoError}
    (h : around.answer t.requests.length (serverLogsUrl url) = .ok body)
    (hwrite : t.files.write (log ++ ".server") (Text.encode body) = .error e) :
    (kept around url log t).1 = none ∧ (kept around url log t).2.files = t.files := by
  simp [kept, storeServerLog, Surroundings.get, h, serverLogCopy, hwrite]

theorem kept_of_written {body : String} {after : Workspace}
    (h : around.answer t.requests.length (serverLogsUrl url) = .ok body)
    (hwrite : t.files.write (log ++ ".server") (Text.encode body) = .ok after) :
    (kept around url log t).1 = some (log ++ ".server") ∧
      (kept around url log t).2.files = after := by
  simp [kept, storeServerLog, Surroundings.get, h, serverLogCopy, hwrite]

def Holds (before after : Workspace) (path body : String) : Prop :=
  exists id, after.find path = .ok id ∧ Workspace.SameBut id before after ∧
    (after.node? id = some (.file (Text.encode body)) ∨
      before.find path = .ok id ∧ before.isFileNode id = false ∧ after = before)

/--
However the request for the log of the server is answered, and whatever disk the log is to be
stored on, the waiting comes to the same. The log is named in the report if it was stored, and then
it stands at the path named; otherwise nothing is named and nothing on the disk has changed. The
message of a task that failed ends with that path in any case.
-/
theorem verdict_independent_of_server_log
    (h : StatusEnds around settings url log s ended polls t) (answer : Except Failure String)
    (files : Workspace) :
    exists result u,
      poll (around.answering t.requests.length answer) settings url log (s.on files) = (result, u) ∧
      result.map (fun report => (report.outcome, report.polls)) = verdict polls ended ∧
      (forall body after,
        answer = .ok body -> files.write (log ++ ".server") (Text.encode body) = .ok after ->
        (forall report, result = .ok report -> report.serverLog = some (log ++ ".server")) ∧
          u.files = after ∧ Holds files after (log ++ ".server") body) ∧
      ((forall body, answer = .ok body ->
          exists e, files.write (log ++ ".server") (Text.encode body) = .error e) ->
        (forall report, result = .ok report -> report.serverLog = none) ∧ u.files = files) ∧
      (forall message, ended = some (.failed message) ->
        exists front, message = front ++ (log ++ ".server")) := by
  have hpoll := poll_of_statusEnds (statusEnds_answering answer files h)
  have hanswer : (around.answering t.requests.length answer).answer
      (t.on files).requests.length (serverLogsUrl url) = answer := if_pos rfl
  refine ⟨_, _, hpoll, map_reported polls _ ended, ?_, ?_, ?_⟩
  · intro body after hbody hwrite
    subst hbody
    rcases kept_of_written hanswer hwrite with ⟨hstored, hfiles⟩
    refine ⟨?_, hfiles, Workspace.write_ok hwrite⟩
    exact serverLog_of_reported hstored
  · intro hrefused
    cases answer with
    | error e =>
        rcases kept_of_refused hanswer with ⟨hstored, hfiles⟩
        exact ⟨serverLog_of_reported hstored, hfiles⟩
    | ok body =>
        rcases hrefused body rfl with ⟨e, hwrite⟩
        rcases kept_of_unwritable hanswer hwrite with ⟨hstored, hfiles⟩
        exact ⟨serverLog_of_reported hstored, hfiles⟩
  · intro message hended
    rw [hended] at h
    exact exists_message_of_statusEnds h

end Ends

theorem statusEnds_of_failed_task :
    exists t, StatusEnds (slowScript [.ok (statusDocument "FAILED")]) ⟨250, none, none⟩
      "http://s/task?id=T1" "a.log" (.start .empty)
      (some (.failed "BACKGROUND TASK AS FAILED. CHECK SERVER : a.log.server")) 3 t ∧
      t.requests.length = 3 := by
  rcases @exists_document_of_status (statusDocument "PENDING") (Status.ofWord "PENDING")
    (by decide +kernel) with ⟨pending, hpending, hpendingStatus⟩
  rcases @exists_document_of_status (statusDocument "FAILED") (Status.ofWord "FAILED")
    (by decide +kernel) with ⟨failed, hfailed, hfailedStatus⟩
  have hundecided : forall i, i < 2 ->
      Undecided (statusAnswer (slowScript [.ok (statusDocument "FAILED")]) "http://s/task?id=T1"
        (.start .empty) i) := by
    intro i hi
    match i, hi with
    | 0, _ => exact Undecided.blank (by decide)
    | 1, _ => exact Undecided.notFinal hpending hpendingStatus (by decide) (by decide)
  have hmax : forall m, (⟨250, none, none⟩ : PollSettings).maxPolls = some m -> 2 + 1 ≤ m := by
    intro m hm
    cases hm
  rcases exists_next_round 0 rfl hmax hundecided with ⟨t, hrounds, hlimit, hanswer⟩
  refine ⟨_, .decided (by decide) hrounds hlimit hanswer (Decides.failed hfailed hfailedStatus), ?_⟩
  rw [requests_answered, List.length_append, length_requests_of_rounds hrounds]
  rfl

theorem verdict_of_failed_task_independent_of_server_log :
    (exists report u,
      poll ((slowScript [.ok (statusDocument "FAILED")]).answering 3 (.ok "task log"))
          ⟨250, none, none⟩ "http://s/task?id=T1" "a.log" (.start .empty) = (.ok report, u) ∧
      (report.outcome, report.polls) =
        (.failed "BACKGROUND TASK AS FAILED. CHECK SERVER : a.log.server", 3) ∧
      report.serverLog = some "a.log.server" ∧
      Holds .empty u.files "a.log.server" "task log") ∧
    (exists report u,
      poll ((slowScript [.ok (statusDocument "FAILED")]).answering 3 (.error (.http "refused")))
          ⟨250, none, none⟩ "http://s/task?id=T1" "a.log" (.start .empty) = (.ok report, u) ∧
      (report.outcome, report.polls) =
        (.failed "BACKGROUND TASK AS FAILED. CHECK SERVER : a.log.server", 3) ∧
      report.serverLog = none ∧ u.files = .empty) := by
  rcases statusEnds_of_failed_task with ⟨t, hends, hlength⟩
  constructor
  · rcases verdict_independent_of_server_log hends (.ok "task log") .empty with
      ⟨result, u, hpoll, hverdict, hstored, _hrefused, _hmessage⟩
    rw [hlength] at hpoll
    cases hwrite : Workspace.empty.write "a.log.server" (Text.encode "task log") with
    | error e =>
        have hok : (Workspace.empty.write "a.log.server" (Text.encode "task log")).isOk = true := by
          decide +kernel
        rw [hwrite] at hok
        cases hok
    | ok after =>
        rcases hstored "task log" after rfl hwrite with ⟨hnamed, hfiles, hholds⟩
        cases result with
        | error e => cases hverdict
        | ok report =>
            rw [← hfiles] at hholds
            exact ⟨report, u, hpoll, Except.ok.inj hverdict, hnamed report rfl, hholds⟩
  · rcases verdict_independent_of_server_log hends (.error (.http "refused")) .empty with
      ⟨result, u, hpoll, hverdict, _hstored, hrefused, _hmessage⟩
    rw [hlength] at hpoll
    rcases hrefused (fun body hbody => nomatch hbody) with ⟨hnamed, hfiles⟩
    cases result with
    | error e => cases hverdict
    | ok report => exact ⟨report, u, hpoll, Except.ok.inj hverdict, hnamed report rfl, hfiles⟩

end Task
end AnalysisHarness
