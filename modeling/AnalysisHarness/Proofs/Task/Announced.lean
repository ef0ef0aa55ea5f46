import AnalysisHarness.Proofs.Log.Announcement
import AnalysisHarness.Proofs.Log.Scan
import AnalysisHarness.Proofs.Task.Polling

/-!
# Waiting for the announced task

The log of an analysis is read once, and its last announcement decides. Where the log cannot be
read or announces nothing but an empty text, no request is made. Otherwise the waiting is that for
the announced task.
-/

namespace AnalysisHarness
namespace Task

open Log Text

section Announced

variable {around : Surroundings} {settings : PollSettings} {url log : String} {s : Session}

/-!
## Skipped tasks
-/

theorem ne_skipped_of_outcome? {reading : Reading} {outcome : Outcome}
    (h : reading.outcome? log = some outcome) : outcome ≠ .skipped := by
  intro hskipped
  rw [hskipped] at h
  cases reading with
  | noResponse => cases h
  | unusable => cases h
  | status status => cases status <;> cases h

theorem ne_skipped_of_pollLoop {started fuel polls n : Nat} {t : Session} {outcome : Outcome}
    (h : pollLoop around settings url log started fuel polls s = (.ok (some outcome, n), t)) :
    outcome ≠ .skipped := by
  induction fuel generalizing polls s with
  | zero => cases h
  | succ fuel ih =>
      rw [pollLoop_succ] at h
      split at h
      · cases h
      · split at h
        · cases h
        · split at h
          · rename_i hends
            cases h
            exact ne_skipped_of_outcome? hends
          · exact ih h

theorem ne_skipped_of_poll {report : PollReport}
    (h : (poll around settings url log s).1 = .ok report) : report.outcome ≠ .skipped := by
  cases hloop : pollLoop around settings url log (around.clock s.journal) pollCount 0 s with
  | mk result t =>
      cases result with
      | error e =>
          rw [poll_of_loop_error hloop] at h
          cases h
      | ok ended =>
          rcases ended with ⟨ended, polls⟩
          rw [poll_of_loop_ok hloop] at h
          cases ended with
          | none => cases h
          | some outcome =>
              cases h
              exact ne_skipped_of_pollLoop hloop

/-!
## Logs without a task
-/

/-- A log announces no task: it cannot be read, or its last announcement is empty. -/
inductive Unannounced (files : Workspace) (log : String) : Prop
  | unreadable {e : IoError} (h : files.read log = .error e)
  | empty {bytes : Bytes} (h : files.read log = .ok bytes)
      (hurl : taskUrl (linesOfBytes bytes) = "")

structure Skipped (s : Session) (waited : Except Failure PollReport × Session) : Prop where
  requests : waited.2.requests = s.requests
  report : exists stored, waited.1 = .ok ⟨.skipped, 0, stored⟩

def informed (log url : String) (s : Session) : Session :=
  (s.remark (.readingLog log)).remark (.backgroundTask url)

theorem announcedTask_of_read {bytes : Bytes} (h : s.files.read log = .ok bytes) :
    announcedTask log s =
      (taskUrl (linesOfBytes bytes), informed log (taskUrl (linesOfBytes bytes)) s) := by
  unfold announcedTask informed
  dsimp only
  rw [Session.files_remark, readLines_of_read h]

theorem announcedTask_of_unreadable {e : IoError} (h : s.files.read log = .error e) :
    (announcedTask log s).1 = "" := by
  unfold announcedTask
  dsimp only
  rw [Session.files_remark, readLines_of_unreadable h]

theorem waitForAnalysis_of_empty (around : Surroundings) (settings : PollSettings)
    (h : (announcedTask log s).1 = "") :
    waitForAnalysis around settings log s = (.ok ⟨.skipped, 0, none⟩, (announcedTask log s).2) := by
  unfold waitForAnalysis
  cases htask : announcedTask log s with
  | mk url t =>
      rw [htask] at h
      dsimp only at h ⊢
      rw [if_pos h]

theorem waitForAnalysis_of_announced (around : Surroundings) (settings : PollSettings)
    {bytes : Bytes} (h : s.files.read log = .ok bytes)
    (hurl : taskUrl (linesOfBytes bytes) ≠ "") :
    waitForAnalysis around settings log s =
      poll around settings (taskUrl (linesOfBytes bytes)) log
        (informed log (taskUrl (linesOfBytes bytes)) s) := by
  unfold waitForAnalysis
  rw [announcedTask_of_read h]
  exact if_neg hurl

theorem Unannounced.announcedTask_eq (h : Unannounced s.files log) :
    (announcedTask log s).1 = "" := by
  cases h with
  | unreadable hread => exact announcedTask_of_unreadable hread
  | empty hread hurl =>
      rw [announcedTask_of_read hread]
      exact hurl

theorem unannounced_or_announced (files : Workspace) (log : String) :
    Unannounced files log ∨
      exists bytes, files.read log = .ok bytes ∧ taskUrl (linesOfBytes bytes) ≠ "" := by
  cases hread : files.read log with
  | error e => exact Or.inl (.unreadable hread)
  | ok bytes =>
      by_cases hurl : taskUrl (linesOfBytes bytes) = ""
      · exact Or.inl (.empty hread hurl)
      · exact Or.inr ⟨bytes, rfl, hurl⟩

/-- The waiting is skipped where no task is announced, and only there. -/
theorem skipped_iff (around : Surroundings) (settings : PollSettings) (log : String)
    (s : Session) :
    Skipped s (waitForAnalysis around settings log s) <-> Unannounced s.files log := by
  constructor
  · intro h
    rcases unannounced_or_announced s.files log with hnone | ⟨bytes, hread, hurl⟩
    · exact hnone
    · rcases h.report with ⟨stored, hreport⟩
      rw [waitForAnalysis_of_announced around settings hread hurl] at hreport
      exact absurd rfl (ne_skipped_of_poll hreport)
  · intro h
    rw [waitForAnalysis_of_empty around settings h.announcedTask_eq]
    constructor
    · exact requests_announcedTask log s
    · exact ⟨none, rfl⟩

end Announced

/--
The address of the task is what the last line with a marker announces, or empty if there is no such
line. Lines before that line and lines without a marker after it do not matter. The waiting is
skipped exactly if the log cannot be read or the address is empty; otherwise it is the waiting for
the task at the address, with nothing done before it but remarks.
-/
theorem waitForAnalysis_settled_by_last_marker :
    (forall lines, (forall line, line ∈ lines -> ¬HasMarker line) -> taskUrl lines = "") ∧
    (forall line, HasMarker line <-> exists url, Announces line url) ∧
    (forall before line after url, Announces line url ->
      (forall later, later ∈ after -> ¬HasMarker later) ->
      taskUrl (before ++ line :: after) = url) ∧
    (forall a b, (exists line, line ∈ b ∧ HasMarker line) -> taskUrl (a ++ b) = taskUrl b) ∧
    (forall a b, (forall line, line ∈ b -> ¬HasMarker line) -> taskUrl (a ++ b) = taskUrl a) ∧
    forall (around : Surroundings) (settings : PollSettings) (log : String) (s : Session),
      (Skipped s (waitForAnalysis around settings log s) <-> Unannounced s.files log) ∧
      forall bytes, s.files.read log = .ok bytes -> taskUrl (linesOfBytes bytes) ≠ "" ->
        exists t,
          t.files = s.files ∧ t.requests = s.requests ∧
          t.journal = s.journal ++
            [.note (.readingLog log), .note (.backgroundTask (taskUrl (linesOfBytes bytes)))] ∧
          waitForAnalysis around settings log s =
            poll around settings (taskUrl (linesOfBytes bytes)) log t := by
  refine ⟨?_, ?_, ?_, ?_, ?_, ?_⟩
  · intro lines
    exact taskUrl_of_no_marker
  · intro line
    exact hasMarker_iff
  · intro before line after url
    exact taskUrl_of_last
  · intro a b
    exact taskUrl_append_of_marker a
  · intro a b
    exact taskUrl_append_of_no_marker a
  · intro around settings log s
    constructor
    · exact skipped_iff around settings log s
    · intro bytes hread hurl
      refine ⟨informed log (taskUrl (linesOfBytes bytes)) s, rfl, ?_, ?_, ?_⟩
      · unfold informed
        rw [Session.requests_remark, Session.requests_remark]
      · exact List.append_assoc s.journal _ _
      · exact waitForAnalysis_of_announced around settings hread hurl

def retriedLog : String :=
  "INFO: More about the report processing at u1\n" ++
    "INFO  - More about the report processing at u2 \r\n"

def retriedDisk : Workspace := diskWithLog (encode retriedLog)

theorem waitForAnalysis_of_retried_analysis :
    (exists t, t.requests = [] ∧
      waitForAnalysis (.scripted []) ⟨250, none, none⟩ "a.log" (.start retriedDisk) =
        poll (.scripted []) ⟨250, none, none⟩ "u2" "a.log" t) ∧
    Skipped (.start retriedDisk)
      (waitForAnalysis (.scripted []) ⟨250, none, none⟩ "b.log" (.start retriedDisk)) := by
  rcases waitForAnalysis_settled_by_last_marker with ⟨_, _, _, _, _, hwait⟩
  constructor
  · have hread : retriedDisk.read "a.log" = .ok (encode retriedLog) := rfl
    have hurl : taskUrl (linesOfBytes (encode retriedLog)) = "u2" := by
      decide +kernel
    have hsome : taskUrl (linesOfBytes (encode retriedLog)) ≠ "" := by
      rw [hurl]
      decide
    rcases (hwait (.scripted []) ⟨250, none, none⟩ "a.log" (.start retriedDisk)).2 _ hread
        hsome with
      ⟨t, _hfiles, hrequests, _hjournal, hpoll⟩
    rw [hurl] at hpoll
    exact ⟨t, hrequests, hpoll⟩
  · have hmissing : retriedDisk.read "b.log" = .error .notFound := rfl
    exact (hwait _ _ "b.log" (.start retriedDisk)).1.mpr (.unreadable hmissing)

end Task
end AnalysisHarness
