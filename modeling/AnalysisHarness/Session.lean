import AnalysisHarness.Date
import AnalysisHarness.Failure
import AnalysisHarness.Task.Document
import AnalysisHarness.Unicode.Printable
import AnalysisHarness.Workspace.Files

/-!
# Sessions

What an activity finds and leaves: the disk, and a journal of what it asked the server, how long
it paused and what it noted. What comes from outside, such as the answers of the server and the
clock, are functions of the journal, so that every activity is a function. Of the remarks only those
on waiting for a task are noted. Those on reading logs, asking for measures and running commands say
nothing that is not in the outcome, and are left out.
-/

namespace AnalysisHarness

/-- Remarks on the progress of an activity. -/
inductive Note where
  | readingLog (log : String)
  | logUnreadable (log : String) (reason : IoError)
  | backgroundTask (url : String)
  | noResponse (poll : Nat)
  | unusableStatus (poll : Nat)
  | status (poll : Nat) (status : Task.Status)
  | serverLogNotStored (reason : Failure)
  deriving DecidableEq, Repr

def Note.message [Wording] : Note -> String
  | readingLog log => "INFO reading analysis log log=" ++ log
  | logUnreadable log reason =>
      "WARN analysis log unreadable log=" ++ log ++ " error=" ++ reason.message
  | backgroundTask url => "INFO background task url=" ++ url
  | noResponse poll => "INFO current status: no response poll=" ++ toString poll
  | unusableStatus poll => "INFO current status: ? poll=" ++ toString poll
  | status poll s =>
      "INFO current status poll=" ++ toString poll ++ " status=" ++ Unicode.quoted s.word
  | serverLogNotStored reason => "WARN cannot store background task log error=" ++ reason.message

/-- What an activity does besides changing files. -/
inductive Activity where
  | request (url : String)
  | pause (milliseconds : Nat)
  | note (n : Note)
  deriving DecidableEq, Repr

/-- The disk, and what has been done so far, oldest first. -/
structure Session where
  files : Workspace
  journal : List Activity
  deriving DecidableEq, Repr

namespace Session

def start (files : Workspace) : Session := ⟨files, []⟩

def record (s : Session) (a : Activity) : Session := { s with journal := s.journal ++ [a] }

def remark (s : Session) (n : Note) : Session := s.record (.note n)

def requests (s : Session) : List String :=
  s.journal.filterMap fun
    | .request url => some url
    | _ => none

def notes (s : Session) : List Note :=
  s.journal.filterMap fun
    | .note n => some n
    | _ => none

@[simp] theorem requests_record_request (s : Session) (url : String) :
    (s.record (.request url)).requests = s.requests ++ [url] := by
  simp [requests, record]

@[simp] theorem requests_record_pause (s : Session) (ms : Nat) :
    (s.record (.pause ms)).requests = s.requests := by
  simp [requests, record]

@[simp] theorem requests_remark (s : Session) (n : Note) :
    (s.remark n).requests = s.requests := by
  simp [requests, remark, record]

@[simp] theorem files_record (s : Session) (a : Activity) : (s.record a).files = s.files := rfl

@[simp] theorem files_remark (s : Session) (n : Note) : (s.remark n).files = s.files := rfl

end Session

structure ShellCall where
  command : String
  directory : String
  log : NodeId
  deriving DecidableEq, Repr

/-- What comes from outside. -/
structure Surroundings where
  /-- The answer to a request, by how many there were before it. -/
  answer : Nat -> String -> Except Failure String
  /-- The clock, in nanoseconds, once so much has been done. -/
  clock : List Activity -> Nat
  today : Date
  environment : String -> Option String
  /-- What running a command does to the disk, and its exit code. -/
  shell : ShellCall -> Workspace -> Except IoError Int × Workspace

namespace Surroundings

def get (around : Surroundings) (url : String) (s : Session) :
    Except Failure String × Session :=
  (around.answer s.requests.length url, s.record (.request url))

end Surroundings

end AnalysisHarness
