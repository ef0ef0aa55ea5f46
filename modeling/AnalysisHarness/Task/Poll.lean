import AnalysisHarness.Log.Reading
import AnalysisHarness.Log.TaskUrl
import AnalysisHarness.Session
import AnalysisHarness.Text.Search

/-!
# Waiting for a background task

The server is asked for the status of a task again and again until the task has come to an end or
a limit is reached. In either case the log that the server kept of the task is then stored beside
the log of the analysis, if it can be had; whether it can does not change the result.
-/

namespace AnalysisHarness
namespace Task

structure PollSettings where
  intervalMs : Nat
  maxPolls : Option Nat
  timeoutMs : Option Nat
  deriving DecidableEq, Repr

inductive Outcome where
  | success
  | failed (message : String)
  | skipped
  deriving DecidableEq, Repr

structure PollReport where
  outcome : Outcome
  polls : Nat
  serverLog : Option String
  deriving DecidableEq, Repr

def serverLogCopy (log : String) : String := log ++ ".server"

/-- Where the server gives its log of a task, by where it gives the status. -/
def serverLogsUrl (url : String) : String := Text.replace "task?id" "logs?taskId" url

def Outcome.ofStatus? (log : String) : Status -> Option Outcome
  | .success => some success
  | .failed =>
      some (failed ("BACKGROUND TASK AS FAILED. CHECK SERVER : " ++ serverLogCopy log))
  | _ => none

def Reading.note (poll : Nat) : Reading -> Note
  | noResponse => .noResponse poll
  | unusable => .unusableStatus poll
  | status s => .status poll s

def Reading.outcome? (log : String) : Reading -> Option Outcome
  | status s => Outcome.ofStatus? log s
  | _ => none

def nanosPerMs : Nat := 1000000

/--
Whether no further request may be sent: there were as many as allowed, or pausing before it would
take longer than allowed. The time does not keep the first request from being sent.
-/
def limitReached (around : Surroundings) (settings : PollSettings) (started polls : Nat)
    (s : Session) : Bool :=
  settings.maxPolls.any (· ≤ polls) ||
    (decide (0 < polls) && settings.timeoutMs.any fun timeout =>
      decide (timeout * nanosPerMs <
        around.clock s.journal - started + settings.intervalMs * nanosPerMs))

/--
Asks for the status until the task has ended or a limit is reached, at most `fuel` times. The
answer is the end of the task, if there is one, and how many requests were sent in all.
-/
def pollLoop (around : Surroundings) (settings : PollSettings) (url log : String)
    (started : Nat) : Nat -> Nat -> Session -> Except Failure (Option Outcome × Nat) × Session
  | 0, polls, s => (.ok (none, polls), s)
  | fuel + 1, polls, s =>
      if limitReached around settings started polls s then (.ok (none, polls), s)
      else
        let s := if polls = 0 then s else s.record (.pause settings.intervalMs)
        match around.get url s with
        | (.error e, s) => (.error e, s)
        | (.ok body, s) =>
            let reading := Reading.ofBody body
            let s := s.remark (reading.note (polls + 1))
            match reading.outcome? log with
            | some outcome => (.ok (some outcome, polls + 1), s)
            | none => pollLoop around settings url log started fuel (polls + 1) s

def storeServerLog (around : Surroundings) (url log : String) (s : Session) :
    Except Failure String × Session :=
  match around.get (serverLogsUrl url) s with
  | (.error e, s) => (.error e, s)
  | (.ok body, s) =>
      match s.files.write (serverLogCopy log) (Text.encode body) with
      | .error e => (.error (.io e), s)
      | .ok files => (.ok (serverLogCopy log), { s with files := files })

/--
How many requests for a status can be counted. What becomes of a waiting after so many of them is
not modelled: it ends there as at a limit.
-/
def pollCount : Nat := 2 ^ 32

def poll (around : Surroundings) (settings : PollSettings) (url log : String) (s : Session) :
    Except Failure PollReport × Session :=
  match pollLoop around settings url log (around.clock s.journal) pollCount 0 s with
  | (.error e, s) => (.error e, s)
  | (.ok (ended, polls), s) =>
      let (stored, s) :=
        match storeServerLog around url log s with
        | (.ok path, s) => (some path, s)
        | (.error e, s) => (none, s.remark (.serverLogNotStored e))
      match ended with
      | some outcome => (.ok ⟨outcome, polls, stored⟩, s)
      | none => (.error (.pollTimeout polls), s)

def announcedTask (log : String) (s : Session) : String × Session :=
  let s := s.remark (.readingLog log)
  let (url, s) :=
    match Log.readLines s.files log with
    | .ok lines => (Log.taskUrl lines, s)
    | .error e => ("", s.remark (.logUnreadable log e))
  (url, s.remark (.backgroundTask url))

def waitForAnalysis (around : Surroundings) (settings : PollSettings) (log : String)
    (s : Session) : Except Failure PollReport × Session :=
  match announcedTask log s with
  | (url, s) =>
      if url = "" then (.ok ⟨.skipped, 0, none⟩, s) else poll around settings url log s

end Task
end AnalysisHarness
