import AnalysisHarness.Proofs.Task.Duration
import AnalysisHarness.Proofs.Task.LastRound

/-!
# The limit of time

The waiting pauses between two requests for the status, and no pause is begun that would end after
the time that is allowed. This module says what the waiting does in which order, at which moments
the clock was asked for the limit, and what follows from the answer, for every clock.
-/

namespace AnalysisHarness

def Activity.isMove : Activity -> Bool
  | .request _ => true
  | .pause _ => true
  | .note _ => false

def Session.moves (s : Session) : List Activity :=
  s.journal.filter Activity.isMove

namespace Session

@[simp] theorem moves_record_request (s : Session) (url : String) :
    (s.record (.request url)).moves = s.moves ++ [.request url] := by
  simp [moves, record, Activity.isMove]

@[simp] theorem moves_record_pause (s : Session) (ms : Nat) :
    (s.record (.pause ms)).moves = s.moves ++ [.pause ms] := by
  simp [moves, record, Activity.isMove]

@[simp] theorem moves_remark (s : Session) (n : Note) : (s.remark n).moves = s.moves := by
  simp [moves, remark, record, Activity.isMove]

end Session

namespace Task

/-!
## The order of requests and pauses
-/

def timetable (settings : PollSettings) (url : String) : Nat -> List Activity
  | 0 => []
  | n + 1 =>
      .request url :: (List.replicate n [.pause settings.intervalMs, .request url]).flatten

theorem timetable_succ (settings : PollSettings) (url : String) (n : Nat) :
    timetable settings url (n + 1) =
      timetable settings url n ++ (if n = 0 then [] else [.pause settings.intervalMs]) ++
        [.request url] := by
  cases n with
  | zero => rfl
  | succ n => simp [timetable, List.replicate_succ']

section Moves

variable {around : Surroundings} {settings : PollSettings} {url log : String}
variable {started n polls : Nat} {s t u : Session} {before : List Activity}
variable {result : Except Failure (Option Outcome × Nat)}

theorem moves_asked (h : t.moves = before ++ timetable settings url polls) :
    (asked settings url polls t).moves = before ++ timetable settings url (polls + 1) := by
  rw [timetable_succ]
  unfold asked
  split <;> simp [h]

theorem moves_answered (body : String) (h : t.moves = before ++ timetable settings url polls) :
    (answered settings url body polls t).moves =
      before ++ timetable settings url (polls + 1) := by
  rw [answered, Session.moves_remark, moves_asked h]

theorem moves_of_rounds (hrounds : Rounds around settings url started n polls s t)
    (h : s.moves = before ++ timetable settings url polls) :
    t.moves = before ++ timetable settings url (polls + n) := by
  induction hrounds with
  | none polls s => exact h
  | @next n polls body s t _hlimit _hanswer _hundecided _hrest ih =>
      rw [show polls + (n + 1) = polls + 1 + n by omega]
      exact ih (moves_answered body h)

theorem moves_of_lastRound (hrounds : Rounds around settings url started n 0 s t)
    (hlast : LastRound around settings url log started n t result u) :
    u.moves = s.moves ++ timetable settings url (sentBy n result) := by
  have hundecided : t.moves = s.moves ++ timetable settings url n := by
    have hnone : s.moves = s.moves ++ timetable settings url 0 := (List.append_nil s.moves).symm
    have hmoves := moves_of_rounds hrounds hnone
    rwa [Nat.zero_add] at hmoves
  cases hlast with
  | limited _hlimit => exact hundecided
  | refused _hlimit _hanswer => exact moves_asked hundecided
  | @decided body outcome _hlimit _hanswer _hdecides => exact moves_answered body hundecided

theorem moves_kept (around : Surroundings) (url log : String) (t : Session) :
    (kept around url log t).2.moves = t.moves ++ [.request (serverLogsUrl url)] := by
  unfold kept storeServerLog Surroundings.get
  cases around.answer t.requests.length (serverLogsUrl url) with
  | error e => simp
  | ok body =>
      cases hwrite : t.files.write (serverLogCopy log) (Text.encode body) with
      | error e => simp [hwrite]
      | ok files =>
          simp only [Session.files_record, hwrite]
          exact Session.moves_record_request t (serverLogsUrl url)

end Moves

/-!
## Pauses within the limit

The limit is checked before a pause, and counts the pause that is to come. So the invariant of the
rounds is about the moment at which each pause of the journal began.
-/

/-- Whether a pause that begins now ends within the time that is allowed. -/
def WithinLimit (around : Surroundings) (settings : PollSettings)
    (start now : List Activity) : Prop :=
  forall timeout, settings.timeoutMs = some timeout ->
    around.clock now - around.clock start + settings.intervalMs * nanosPerMs ≤
      timeout * nanosPerMs

/-- Every pause since a moment is as long as it should be, and began within the limit. -/
def Paced (around : Surroundings) (settings : PollSettings) (start now : List Activity) : Prop :=
  forall before ms after, now = start ++ before ++ .pause ms :: after ->
    ms = settings.intervalMs ∧ WithinLimit around settings start (start ++ before)

section Pauses

variable {around : Surroundings} {settings : PollSettings} {url log : String}
variable {n polls : Nat} {s t u : Session} {start now : List Activity}
variable {result : Except Failure (Option Outcome × Nat)}

theorem withinLimit_of_limitReached_eq_false (hpolls : polls ≠ 0)
    (h : limitReached around settings (around.clock start) polls s = false) :
    WithinLimit around settings start s.journal := by
  intro timeout htimeout
  rw [limitReached, htimeout, Option.any_some] at h
  rcases Bool.or_eq_false_iff.mp h with ⟨_hcount, htime⟩
  rw [decide_eq_true (Nat.pos_of_ne_zero hpolls), Bool.true_and] at htime
  exact Nat.not_lt.mp (of_decide_eq_false htime)

theorem limitReached_of_not_withinLimit (hpolls : 0 < polls)
    (h : Not (WithinLimit around settings start s.journal)) :
    limitReached around settings (around.clock start) polls s = true := by
  cases hreached : limitReached around settings (around.clock start) polls s with
  | true => rfl
  | false =>
      exact absurd (withinLimit_of_limitReached_eq_false (Nat.ne_of_gt hpolls) hreached) h

theorem paced_refl (around : Surroundings) (settings : PollSettings) (start : List Activity) :
    Paced around settings start start := by
  intro before ms after h
  have hlength := congrArg List.length h
  simp only [List.length_append, List.length_cons] at hlength
  omega

theorem paced_append {a : Activity} (h : Paced around settings start now)
    (ha : forall ms, a = .pause ms ->
      ms = settings.intervalMs ∧ WithinLimit around settings start now) :
    Paced around settings start (now ++ [a]) := by
  intro before ms after hsplit
  -- the pause is the activity that was added, or it was there before
  rcases List.eq_nil_or_concat after with rfl | ⟨rest, last, rfl⟩
  · have hends := List.append_inj' hsplit rfl
    rw [← hends.1]
    exact ha ms (List.singleton_inj.mp hends.2)
  · rw [List.concat_eq_append, ← List.cons_append, ← List.append_assoc] at hsplit
    exact h before ms rest (List.append_inj' hsplit rfl).1

theorem paced_remark (note : Note) (h : Paced around settings start s.journal) :
    Paced around settings start (s.remark note).journal :=
  paced_append h (fun _ms hpause => nomatch hpause)

theorem paced_record_request (h : Paced around settings start s.journal) :
    Paced around settings start (s.record (.request url)).journal :=
  paced_append h (fun _ms hpause => nomatch hpause)

theorem paced_asked (hlimit : limitReached around settings (around.clock start) polls s = false)
    (h : Paced around settings start s.journal) :
    Paced around settings start (asked settings url polls s).journal := by
  unfold asked
  by_cases hpolls : polls = 0
  · rw [if_pos hpolls]
    exact paced_record_request h
  · rw [if_neg hpolls]
    refine paced_record_request (paced_append h ?_)
    intro ms hpause
    cases hpause
    exact ⟨rfl, withinLimit_of_limitReached_eq_false hpolls hlimit⟩

theorem paced_of_rounds (hrounds : Rounds around settings url (around.clock start) n polls s t)
    (h : Paced around settings start s.journal) : Paced around settings start t.journal := by
  induction hrounds with
  | none polls s => exact h
  | next hlimit _hanswer _hundecided _hrest ih => exact ih (paced_remark _ (paced_asked hlimit h))

theorem paced_of_lastRound
    (hlast : LastRound around settings url log (around.clock start) polls t result u)
    (h : Paced around settings start t.journal) : Paced around settings start u.journal := by
  cases hlast with
  | limited _hlimit => exact h
  | refused hlimit _hanswer => exact paced_asked hlimit h
  | decided hlimit _hanswer _hdecides => exact paced_remark _ (paced_asked hlimit h)

theorem paced_kept (h : Paced around settings start t.journal) :
    Paced around settings start (kept around url log t).2.journal := by
  unfold kept storeServerLog Surroundings.get
  cases around.answer t.requests.length (serverLogsUrl url) with
  | error e => exact paced_remark _ (paced_record_request h)
  | ok body =>
      cases hwrite : t.files.write (serverLogCopy log) (Text.encode body) with
      | error e =>
          simp only [Session.files_record, hwrite]
          exact paced_remark _ (paced_record_request h)
      | ok files =>
          simp only [Session.files_record, hwrite]
          exact paced_record_request h

end Pauses

/-!
## Clocks that run forward

Where a pause takes at least as long as it should, the pauses alone use up the time that is allowed.
So the limit of time bounds the number of requests, however fast the server answers.
-/

/-- A clock that never goes back, and on which a pause takes at least its length. -/
structure RunsForward (clock : List Activity -> Nat) : Prop where
  never_back : forall journal a, clock journal ≤ clock (journal ++ [a])
  pauses : forall journal ms, clock journal + ms * nanosPerMs ≤ clock (journal ++ [.pause ms])

/-- As many requests as there were, the pauses between them have gone by and were allowed. -/
structure Timely (around : Surroundings) (settings : PollSettings) (start : List Activity)
    (polls : Nat) (now : List Activity) : Prop where
  gone_by :
    around.clock start + (polls - 1) * (settings.intervalMs * nanosPerMs) ≤ around.clock now
  allowed : forall timeout, settings.timeoutMs = some timeout ->
    (polls - 1) * (settings.intervalMs * nanosPerMs) ≤ timeout * nanosPerMs

section Clocks

variable {around : Surroundings} {settings : PollSettings} {url log : String}
variable {n polls : Nat} {s t u : Session} {start now : List Activity}
variable {result : Except Failure (Option Outcome × Nat)}

theorem timely_start (around : Surroundings) (settings : PollSettings) (start : List Activity) :
    Timely around settings start 0 start := by
  constructor
  · simp
  · intro timeout _htimeout
    simp

theorem timely_append (hclock : RunsForward around.clock)
    (h : Timely around settings start polls now) (a : Activity) :
    Timely around settings start polls (now ++ [a]) := by
  constructor
  · exact Nat.le_trans h.gone_by (hclock.never_back now a)
  · exact h.allowed

theorem timely_asked (hclock : RunsForward around.clock)
    (hlimit : limitReached around settings (around.clock start) polls s = false)
    (h : Timely around settings start polls s.journal) :
    Timely around settings start (polls + 1) (asked settings url polls s).journal := by
  unfold asked
  cases polls with
  | zero =>
      have hfirst : Timely around settings start (0 + 1) s.journal := ⟨h.gone_by, h.allowed⟩
      rw [if_pos rfl]
      exact timely_append hclock hfirst (.request url)
  | succ k =>
      have hwithin := withinLimit_of_limitReached_eq_false (Nat.succ_ne_zero k) hlimit
      have hgone : around.clock start + k * (settings.intervalMs * nanosPerMs) ≤
          around.clock s.journal := h.gone_by
      have hpause : around.clock s.journal + settings.intervalMs * nanosPerMs ≤
          around.clock (s.record (.pause settings.intervalMs)).journal :=
        hclock.pauses s.journal settings.intervalMs
      rw [if_neg (Nat.succ_ne_zero k)]
      apply timely_append hclock
      -- the check before the pause has counted it, and the clock counts at least as much
      constructor
      · rw [Nat.add_sub_cancel, Nat.succ_mul]
        omega
      · intro timeout htimeout
        have hend := hwithin timeout htimeout
        rw [Nat.add_sub_cancel, Nat.succ_mul]
        omega

theorem timely_of_rounds (hclock : RunsForward around.clock)
    (hrounds : Rounds around settings url (around.clock start) n polls s t)
    (h : Timely around settings start polls s.journal) :
    Timely around settings start (polls + n) t.journal := by
  induction hrounds with
  | none polls s => exact h
  | @next n polls body s t hlimit _hanswer _hundecided _hrest ih =>
      rw [show polls + (n + 1) = polls + 1 + n by omega]
      exact ih (timely_append hclock (timely_asked hclock hlimit h) _)

theorem timely_of_lastRound (hclock : RunsForward around.clock)
    (hlast : LastRound around settings url log (around.clock start) n t result u)
    (h : Timely around settings start n t.journal) :
    Timely around settings start (sentBy n result) u.journal := by
  cases hlast with
  | limited _hlimit => exact h
  | refused hlimit _hanswer => exact timely_asked hclock hlimit h
  | decided hlimit _hanswer _hdecides =>
      exact timely_append hclock (timely_asked hclock hlimit h) _

theorem pauses_le_timeout {timeout : Nat} (hclock : RunsForward around.clock)
    (htimeout : settings.timeoutMs = some timeout)
    (hrounds : Rounds around settings url (around.clock s.journal) n 0 s t)
    (hlast : LastRound around settings url log (around.clock s.journal) n t result u) :
    (sentBy n result - 1) * settings.intervalMs ≤ timeout := by
  have hundecided := timely_of_rounds hclock hrounds (timely_start around settings s.journal)
  rw [Nat.zero_add] at hundecided
  have hallowed := (timely_of_lastRound hclock hlast hundecided).allowed timeout htimeout
  rw [← Nat.mul_assoc] at hallowed
  exact Nat.le_of_mul_le_mul_right hallowed (by decide)

end Clocks

/-!
## The waiting as a whole
-/

section Waiting

variable {around : Surroundings} {settings : PollSettings} {url log : String}
variable {n : Nat} {s t u : Session} {start now : List Activity}
variable {result : Except Failure (Option Outcome × Nat)}

theorem moves_waited (hrounds : Rounds around settings url (around.clock s.journal) n 0 s t)
    (hlast : LastRound around settings url log (around.clock s.journal) n t result u) :
    (exists k e,
      sentBy n result = k + 1 ∧ statusAnswer around url s k = .error e ∧
      (waited around url log result u).1 = .error e ∧
      (waited around url log result u).2.moves =
        s.moves ++ timetable settings url (sentBy n result)) ∨
      (waited around url log result u).2.moves =
        s.moves ++ timetable settings url (sentBy n result) ++
          [.request (serverLogsUrl url)] := by
  have hmoves := moves_of_lastRound hrounds hlast
  cases result with
  | ok ended =>
      apply Or.inr
      rw [← hmoves]
      exact moves_kept around url log u
  | error e =>
      cases hlast with
      | refused _hlimit hanswer =>
          rw [length_requests_of_rounds hrounds] at hanswer
          exact Or.inl ⟨n, e, rfl, hanswer, rfl, hmoves⟩

theorem paced_waited (hrounds : Rounds around settings url (around.clock s.journal) n 0 s t)
    (hlast : LastRound around settings url log (around.clock s.journal) n t result u) :
    Paced around settings s.journal (waited around url log result u).2.journal := by
  have hpaced : Paced around settings s.journal u.journal :=
    paced_of_lastRound hlast (paced_of_rounds hrounds (paced_refl around settings s.journal))
  cases result with
  | error e => exact hpaced
  | ok ended => exact paced_kept hpaced

theorem poll_of_not_withinLimit (hcount : statusRequests around settings url log s < pollCount)
    (hn : 0 < n) (hrounds : Rounds around settings url (around.clock s.journal) n 0 s t)
    (hlate : Not (WithinLimit around settings s.journal t.journal)) :
    statusRequests around settings url log s = n ∧
      exists u,
        poll around settings url log s = (.error (.pollTimeout n), u) ∧
        u.moves = s.moves ++ timetable settings url n ++ [.request (serverLogsUrl url)] := by
  have hbound := lt_pollCount_of_rounds hcount hrounds
  have hlimited : LastRound around settings url log (around.clock s.journal) n t
      (.ok (none, n)) t := .limited (limitReached_of_not_withinLimit hn hlate)
  refine ⟨statusRequests_of_lastRound hbound hrounds hlimited, (kept around url log t).2,
    poll_of_lastRound hbound hrounds hlimited, ?_⟩
  rw [moves_kept, moves_of_lastRound hrounds hlimited]
  rfl

theorem withinLimit_iff_exceeds {interval : UInt64} {limit : Option Span} {elapsed sum : Span}
    (hinterval : settings.intervalMs = interval.toNat)
    (hlimit : settings.timeoutMs.map (· * nanosPerMs) = limit.map Span.inNanos)
    (helapsed : elapsed.inNanos = around.clock now - around.clock start)
    (hsum : elapsed.add? (.ofMs interval) = some sum) :
    WithinLimit around settings start now <-> limit.any sum.exceeds = false := by
  have hnanos : sum.inNanos =
      around.clock now - around.clock start + settings.intervalMs * nanosPerMs := by
    rw [Span.inNanos_of_add? hsum, Span.inNanos_ofMs, helapsed, hinterval]
  unfold WithinLimit
  rw [← hnanos]
  cases limit with
  | none =>
      have hno : settings.timeoutMs = none := Option.map_eq_none_iff.mp hlimit
      simp [hno]
  | some limit =>
      rcases Option.map_eq_some_iff.mp hlimit with ⟨timeout, htimeout, heq⟩
      simp only [htimeout, Option.some.injEq, forall_eq', heq, Option.any_some, ← Bool.not_eq_true,
        Span.exceeds_iff, Nat.not_lt]

/--
Waiting asks for the status at once, unless no request is allowed at all, and pauses for the
interval once before each later request, but not before the request for the log of the server. A
pause begins only if the time gone by and the interval together are within the limit. Where they
are not, the waiting ends there, with the number of the requests for the status. On a clock that
runs forward the pauses add up to no more than the limit. The sum fits into words while half of the
seconds of a word have not gone by, and then comparing words is the check.

The clock is any function of what has been done, so a request may take any time.
-/
theorem poll_keeps_time_limit (around : Surroundings) (settings : PollSettings)
    (url log : String) (s : Session)
    (hcount : statusRequests around settings url log s < pollCount) :
    exists n result u,
      statusRequests around settings url log s = n ∧
      poll around settings url log s = (result, u) ∧
      (n = 0 <-> settings.maxPolls = some 0) ∧
      ((exists k e,
        n = k + 1 ∧ statusAnswer around url s k = .error e ∧ result = .error e ∧
        u.moves = s.moves ++ timetable settings url n) ∨
        u.moves = s.moves ++ timetable settings url n ++ [.request (serverLogsUrl url)]) ∧
      (forall before ms after, u.journal = s.journal ++ before ++ .pause ms :: after ->
        ms = settings.intervalMs ∧
        WithinLimit around settings s.journal (s.journal ++ before)) ∧
      (forall k t,
        0 < k -> Rounds around settings url (around.clock s.journal) k 0 s t ->
        Not (WithinLimit around settings s.journal t.journal) ->
        n = k ∧ result = .error (.pollTimeout k) ∧
        u.moves = s.moves ++ timetable settings url k ++ [.request (serverLogsUrl url)]) ∧
      (RunsForward around.clock ->
        forall timeout, settings.timeoutMs = some timeout ->
        (n - 1) * settings.intervalMs ≤ timeout) ∧
      (forall (interval : UInt64) (limit : Option Span) now (elapsed : Span),
        settings.intervalMs = interval.toNat ->
        settings.timeoutMs.map (· * nanosPerMs) = limit.map Span.inNanos ->
        elapsed.inNanos = around.clock now - around.clock s.journal ->
        elapsed.seconds < 2 ^ 63 ->
        exists sum,
          elapsed.add? (.ofMs interval) = some sum ∧
          (WithinLimit around settings s.journal now <-> limit.any sum.exceeds = false)) := by
  rcases exists_lastRound hcount with ⟨n, t, result, u, hn, hrounds, hlast⟩
  have hsent := statusRequests_of_lastRound hn hrounds hlast
  have hpoll := poll_of_lastRound hn hrounds hlast
  refine ⟨sentBy n result, (waited around url log result u).1, (waited around url log result u).2,
    hsent, hpoll, ?_, moves_waited hrounds hlast, paced_waited hrounds hlast, ?_, ?_, ?_⟩
  · rw [← hsent]
    exact statusRequests_eq_zero_iff
  · intro k t' hk hrounds' hlate
    rcases poll_of_not_withinLimit hcount hk hrounds' hlate with ⟨hsent', u', hpoll', hmoves⟩
    rw [← hpoll, hpoll', ← hsent]
    exact ⟨hsent', rfl, hmoves⟩
  · intro hclock timeout htimeout
    exact pauses_le_timeout hclock htimeout hrounds hlast
  · intro interval limit now elapsed hinterval hlimit helapsed hearly
    rcases Span.exists_add?_ofMs hearly interval with ⟨sum, hsum⟩
    exact ⟨sum, hsum, withinLimit_iff_exceeds hinterval hlimit helapsed hsum⟩

end Waiting

end Task

def Activity.lasts (latencyMs : Nat) : Activity -> Nat
  | .request _ => latencyMs * Task.nanosPerMs
  | .pause ms => ms * Task.nanosPerMs
  | .note _ => 0

def Surroundings.timed (around : Surroundings) (latencyMs : Nat) : Surroundings :=
  { around with clock := fun journal => journal.foldl (fun t a => t + a.lasts latencyMs) 0 }

namespace Task

theorem clock_timed_append (around : Surroundings) (latencyMs : Nat) (journal : List Activity)
    (a : Activity) :
    (around.timed latencyMs).clock (journal ++ [a]) =
      (around.timed latencyMs).clock journal + a.lasts latencyMs :=
  List.foldl_append

theorem runsForward_timed (around : Surroundings) (latencyMs : Nat) :
    RunsForward (around.timed latencyMs).clock := by
  constructor
  · intro journal a
    rw [clock_timed_append]
    exact Nat.le_add_right _ _
  · intro journal ms
    exact Nat.le_of_eq (clock_timed_append around latencyMs journal (.pause ms)).symm

def slowServer : Surroundings := (slowScript [.ok (statusDocument "SUCCESS")]).timed 10

theorem exists_rounds_of_slowServer :
    exists t,
      Rounds slowServer ⟨250, none, some 500⟩ "http://s/task?id=T1"
        (slowServer.clock (Session.start .empty).journal) 2 0 (.start .empty) t ∧
      slowServer.clock t.journal = 270 * nanosPerMs := by
  rcases @exists_document_of_status (statusDocument "PENDING") (Status.ofWord "PENDING")
    (by decide +kernel) with ⟨pending, hpending, hstatus⟩
  have hblank : Undecided (.ok " \n") := .blank (by decide)
  have hpending : Undecided (.ok (statusDocument "PENDING")) :=
    .notFinal hpending hstatus (by decide) (by decide)
  refine ⟨_, Rounds.next ?_ ?_ hblank (Rounds.next ?_ ?_ hpending (Rounds.none _ _)), ?_⟩
  all_goals decide +kernel

theorem poll_of_slowServer_keeps_time_limit :
    RunsForward slowServer.clock ∧
    exists u,
      poll slowServer ⟨250, none, some 500⟩ "http://s/task?id=T1" "a.log" (.start .empty) =
        (.error (.pollTimeout 2), u) ∧
      u.moves =
        [.request "http://s/task?id=T1", .pause 250, .request "http://s/task?id=T1",
          .request (serverLogsUrl "http://s/task?id=T1")] := by
  rcases exists_rounds_of_slowServer with ⟨t, hrounds, hclock⟩
  have hlate : Not (WithinLimit slowServer ⟨250, none, some 500⟩ (Session.start .empty).journal
      t.journal) := by
    intro hwithin
    have hend := hwithin 500 rfl
    rw [hclock] at hend
    exact absurd hend (by decide)
  have hlimited : LastRound slowServer ⟨250, none, some 500⟩ "http://s/task?id=T1" "a.log"
      (slowServer.clock (Session.start .empty).journal) 2 t (.ok (none, 2)) t :=
    .limited (limitReached_of_not_withinLimit (by decide) hlate)
  have hcount : statusRequests slowServer ⟨250, none, some 500⟩ "http://s/task?id=T1" "a.log"
      (.start .empty) < pollCount := by
    rw [statusRequests_of_lastRound (by decide) hrounds hlimited]
    decide
  rcases poll_keeps_time_limit slowServer ⟨250, none, some 500⟩ "http://s/task?id=T1" "a.log"
    (.start .empty) hcount with
    ⟨_n, _result, u, _hsent, hpoll, _hfirst, _hmoves, _hpaced, hends, _hpauses, _hwords⟩
  rcases hends 2 t (by decide) hrounds hlate with ⟨_hn, rfl, hmoves⟩
  exact ⟨runsForward_timed _ 10, u, hpoll, hmoves⟩

end Task
end AnalysisHarness
