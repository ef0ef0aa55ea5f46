import AnalysisHarness.Proofs.Decimal.Digits
import AnalysisHarness.Proofs.Journal
import AnalysisHarness.Task.Poll

/-!
# The rounds of waiting for a task

Waiting for a task goes in rounds of one request each. A round either leaves the task undecided,
and then the next one begins unless a limit forbids it, or it decides how the waiting ends. This
module describes the rounds by a relation, follows the loop through them, and reads off what is
asked of the server and what comes of it.
-/

namespace AnalysisHarness
namespace Task

open Json

/-!
## Blank texts

An answer of nothing but blanks is no JSON text, so it never names a status.
-/

theorem readNumber_of_blank {cs : List Char} (h : forall c, c ∈ cs -> Text.isBlank c = true) :
    readNumber cs = .error .malformed := by
  cases cs with
  | nil => rfl
  | cons c rest =>
      have hc : Text.isBlank c = true := h c List.mem_cons_self
      have hminus : c ≠ '-' := by
        intro heq
        rw [heq] at hc
        exact absurd hc (by decide)
      unfold readNumber
      split
      rename_i heq
      split at heq
      · rename_i hcons
        cases hcons
        exact absurd rfl hminus
      · cases heq
        simp [Decimal.spanDigits, Decimal.isDigit_eq_false_of_isBlank hc]

theorem readForm_of_blank (fuel : Nat) {cs : List Char}
    (h : forall c, c ∈ cs -> Text.isBlank c = true) :
    readForm (fuel + 1) cs = .error .malformed := by
  have hskip : forall c, c ∈ skipSpace cs -> Text.isBlank c = true := by
    intro c hc
    exact h c ((List.dropWhile_sublist isSpace).subset hc)
  unfold readForm
  split
  -- no text of the grammar but a number begins with a blank or ends at once
  iterate 6
    · rename_i hcons
      exact absurd (hskip _ (hcons ▸ List.mem_cons_self)) (by decide)
  · rw [readNumber_of_blank hskip]
    rfl

theorem read_of_blank {body : String} (h : Text.isBlankText body = true) :
    Form.read body.toList = .error .malformed := by
  unfold Form.read
  rw [readForm_of_blank]
  · rfl
  · intro c hc
    exact List.all_eq_true.mp h c hc

/-!
## What an answer decides

Blanks, texts that are no JSON, documents without a status and statuses that are not final leave
the task undecided. A final status ends the waiting, and so does a request that fails.
-/

inductive Undecided : Except Failure String -> Prop where
  | blank {body : String} :
      Text.isBlankText body = true -> Undecided (.ok body)
  | malformed {body : String} {e : Fault} :
      Form.read body.toList = .error e -> Undecided (.ok body)
  | noStatus {body : String} {document : Form} :
      Form.read body.toList = .ok document ->
      statusOfForm? document = none ->
      Undecided (.ok body)
  | notFinal {body : String} {document : Form} {word : String} :
      Form.read body.toList = .ok document ->
      statusOfForm? document = some (Status.ofWord word) ->
      word ≠ "SUCCESS" ->
      word ≠ "FAILED" ->
      Undecided (.ok body)

inductive Decides (log : String) :
    Except Failure String -> Except Failure Outcome -> Prop where
  | refused (e : Failure) : Decides log (.error e) (.error e)
  | success {body : String} {document : Form} :
      Form.read body.toList = .ok document ->
      statusOfForm? document = some (Status.ofWord "SUCCESS") ->
      Decides log (.ok body) (.ok .success)
  | failed {body : String} {document : Form} :
      Form.read body.toList = .ok document ->
      statusOfForm? document = some (Status.ofWord "FAILED") ->
      Decides log (.ok body)
        (.ok (.failed ("BACKGROUND TASK AS FAILED. CHECK SERVER : " ++ log ++ ".server")))

theorem exists_word_of_statusOfForm? {document : Form} {status : Status}
    (h : statusOfForm? document = some status) :
    exists word, status = Status.ofWord word := by
  unfold statusOfForm? at h
  simp only [Option.bind_eq_bind, Option.bind_eq_some_iff] at h
  rcases h with ⟨task, _htask, value, _hvalue, h⟩
  cases value with
  | string units =>
      rcases Option.map_eq_some_iff.mp h with ⟨word, _hword, heq⟩
      exact ⟨word, heq.symm⟩
  | _ => cases h

theorem ofBody_of_read {body : String} {document : Form}
    (h : Form.read body.toList = .ok document) :
    Reading.ofBody body =
      match statusOfForm? document with
      | some status => .status status
      | none => .unusable := by
  have hblank : Text.isBlankText body = false := by
    cases hb : Text.isBlankText body with
    | false => rfl
    | true =>
        rw [read_of_blank hb] at h
        cases h
  simp only [Reading.ofBody, hblank, h]
  rfl

theorem outcome?_of_undecided {body : String} (log : String)
    (h : Undecided (.ok body)) : (Reading.ofBody body).outcome? log = none := by
  cases h with
  | blank hblank => simp [Reading.ofBody, hblank, Reading.outcome?]
  | malformed hread =>
      by_cases hblank : Text.isBlankText body = true
      · simp [Reading.ofBody, hblank, Reading.outcome?]
      · simp [Reading.ofBody, hblank, hread, Reading.outcome?]
  | noStatus hread hstatus =>
      simp [ofBody_of_read hread, hstatus, Reading.outcome?]
  | notFinal hread hstatus hsuccess hfailed =>
      rename_i word
      rw [ofBody_of_read hread, hstatus]
      by_cases hpending : word = "PENDING"
      · simp [hpending, Status.ofWord, Reading.outcome?, Outcome.ofStatus?]
      · by_cases hprogress : word = "IN_PROGRESS"
        · simp [hprogress, Status.ofWord, Reading.outcome?, Outcome.ofStatus?]
        · simp [hpending, hprogress, hsuccess, hfailed, Status.ofWord,
            Reading.outcome?, Outcome.ofStatus?]

theorem outcome?_of_decides {log body : String} {outcome : Outcome}
    (h : Decides log (.ok body) (.ok outcome)) :
    (Reading.ofBody body).outcome? log = some outcome := by
  cases h with
  | success hread hstatus =>
      rw [ofBody_of_read hread, hstatus]
      rfl
  | failed hread hstatus =>
      rw [ofBody_of_read hread, hstatus]
      simp [Status.ofWord, Reading.outcome?, Outcome.ofStatus?, serverLogCopy,
        String.append_assoc]

/-- Every answer either leaves the task undecided or ends the waiting. -/
theorem undecided_or_decides (log : String) (answer : Except Failure String) :
    Undecided answer ∨ exists result, Decides log answer result := by
  cases answer with
  | error e => exact Or.inr ⟨_, Decides.refused e⟩
  | ok body =>
      cases hread : Form.read body.toList with
      | error e => exact Or.inl (Undecided.malformed hread)
      | ok document =>
          cases hstatus : statusOfForm? document with
          | none => exact Or.inl (Undecided.noStatus hread hstatus)
          | some status =>
              rcases exists_word_of_statusOfForm? hstatus with ⟨word, rfl⟩
              by_cases hsuccess : word = "SUCCESS"
              · rw [hsuccess] at hstatus
                exact Or.inr ⟨_, Decides.success hread hstatus⟩
              · by_cases hfailed : word = "FAILED"
                · rw [hfailed] at hstatus
                  exact Or.inr ⟨_, Decides.failed hread hstatus⟩
                · exact Or.inl (Undecided.notFinal hread hstatus hsuccess hfailed)

theorem undecided_iff_not_decides (log : String) (answer : Except Failure String) :
    Undecided answer <-> Not (exists result, Decides log answer result) := by
  constructor
  · intro h hdecides
    rcases hdecides with ⟨result, hresult⟩
    cases answer with
    | error e => cases h
    | ok body =>
        cases result with
        | error e => cases hresult
        | ok outcome =>
            have hnone := outcome?_of_undecided log h
            rw [outcome?_of_decides hresult] at hnone
            cases hnone
  · intro h
    cases undecided_or_decides log answer with
    | inl hundecided => exact hundecided
    | inr hdecides => exact absurd hdecides h

/-!
## One round

A round pauses, unless it is the first one, then asks for the status and notes the answer. The loop
is described once by what it does with one more round to spend.
-/

def asked (settings : PollSettings) (url : String) (polls : Nat) (s : Session) : Session :=
  (if polls = 0 then s else s.record (.pause settings.intervalMs)).record (.request url)

def answered (settings : PollSettings) (url body : String) (polls : Nat) (s : Session) : Session :=
  (asked settings url polls s).remark ((Reading.ofBody body).note (polls + 1))

@[simp] theorem requests_asked (settings : PollSettings) (url : String) (polls : Nat)
    (s : Session) : (asked settings url polls s).requests = s.requests ++ [url] := by
  unfold asked
  split <;> simp

@[simp] theorem files_asked (settings : PollSettings) (url : String) (polls : Nat)
    (s : Session) : (asked settings url polls s).files = s.files := by
  unfold asked
  split <;> rfl

@[simp] theorem requests_answered (settings : PollSettings) (url body : String) (polls : Nat)
    (s : Session) : (answered settings url body polls s).requests = s.requests ++ [url] := by
  simp [answered]

@[simp] theorem files_answered (settings : PollSettings) (url body : String) (polls : Nat)
    (s : Session) : (answered settings url body polls s).files = s.files := by
  simp [answered]

theorem pollLoop_succ (around : Surroundings) (settings : PollSettings) (url log : String)
    (started fuel polls : Nat) (s : Session) :
    pollLoop around settings url log started (fuel + 1) polls s =
      if limitReached around settings started polls s then (.ok (none, polls), s)
      else
        match around.answer s.requests.length url with
        | .error e => (.error e, asked settings url polls s)
        | .ok body =>
            match (Reading.ofBody body).outcome? log with
            | some outcome =>
                (.ok (some outcome, polls + 1), answered settings url body polls s)
            | none =>
                pollLoop around settings url log started fuel (polls + 1)
                  (answered settings url body polls s) := by
  have hlength :
      (if polls = 0 then s else s.record (.pause settings.intervalMs)).requests.length =
        s.requests.length := by
    split <;> simp
  rw [pollLoop]
  split
  · rfl
  · simp only [Surroundings.get, hlength]
    cases around.answer s.requests.length url with
    | error e => rfl
    | ok body => rfl

/-!
## Rounds in a row

The relation `Rounds` holds the rounds that leave the task undecided. The loop passes through
them and goes on from where they end, so what is true of every round is true of a whole run.
-/

/-- So many undecided rounds in a row lead from one session to another one. -/
inductive Rounds (around : Surroundings) (settings : PollSettings) (url : String)
    (started : Nat) : Nat -> Nat -> Session -> Session -> Prop where
  | none (polls : Nat) (s : Session) : Rounds around settings url started 0 polls s s
  | next {n polls : Nat} {body : String} {s t : Session} :
      limitReached around settings started polls s = false ->
      around.answer s.requests.length url = .ok body ->
      Undecided (.ok body) ->
      Rounds around settings url started n (polls + 1) (answered settings url body polls s) t ->
      Rounds around settings url started (n + 1) polls s t

section Rounds

variable {around : Surroundings} {settings : PollSettings} {url : String}
variable {started n polls : Nat} {s t : Session}

theorem pollLoop_of_rounds (log : String) (fuel : Nat)
    (h : Rounds around settings url started n polls s t) :
    pollLoop around settings url log started (n + fuel) polls s =
      pollLoop around settings url log started fuel (polls + n) t := by
  induction h with
  | none polls s => simp
  | next hlimit hanswer hundecided _hrest ih =>
      rename_i n polls body s t
      rw [show n + 1 + fuel = n + fuel + 1 by omega, pollLoop_succ]
      simp only [hlimit, hanswer, outcome?_of_undecided log hundecided]
      rw [show polls + (n + 1) = polls + 1 + n by omega]
      exact ih

theorem requests_of_rounds (h : Rounds around settings url started n polls s t) :
    t.requests = s.requests ++ List.replicate n url := by
  induction h with
  | none polls s => simp
  | next _hlimit _hanswer _hundecided _hrest ih =>
      rw [ih, requests_answered, List.replicate_succ]
      simp

theorem files_of_rounds (h : Rounds around settings url started n polls s t) :
    t.files = s.files := by
  induction h with
  | none polls s => rfl
  | next _hlimit _hanswer _hundecided _hrest ih =>
      rw [ih, files_answered]

theorem limitReached_of_no_timeout (around : Surroundings) (hno : settings.timeoutMs = none)
    (started polls : Nat) (s : Session) :
    limitReached around settings started polls s = settings.maxPolls.any (· ≤ polls) := by
  simp [limitReached, hno]

theorem limitReached_eq_false (around : Surroundings) (hno : settings.timeoutMs = none)
    (hmax : forall m, settings.maxPolls = some m -> polls < m) (started : Nat) (s : Session) :
    limitReached around settings started polls s = false := by
  rw [limitReached_of_no_timeout around hno]
  cases hm : settings.maxPolls with
  | none => rfl
  | some m => exact decide_eq_false (Nat.not_le.mpr (hmax m hm))

/-- Without a limit of time, undecided answers give rounds as long as the count allows. -/
theorem exists_rounds (started : Nat) (hno : settings.timeoutMs = none)
    (hanswers : forall i, i < n -> Undecided (around.answer (s.requests.length + i) url))
    (hmax : forall m, settings.maxPolls = some m -> polls + n ≤ m) :
    exists t, Rounds around settings url started n polls s t := by
  induction n generalizing polls s with
  | zero => exact ⟨s, Rounds.none polls s⟩
  | succ n ih =>
      have hfirst := hanswers 0 (Nat.succ_pos n)
      rw [Nat.add_zero] at hfirst
      have hlimit : limitReached around settings started polls s = false := by
        apply limitReached_eq_false around hno
        intro m hm
        have hle := hmax m hm
        omega
      cases hanswer : around.answer s.requests.length url with
      | error e =>
          rw [hanswer] at hfirst
          cases hfirst
      | ok body =>
          rw [hanswer] at hfirst
          have hrest : exists t, Rounds around settings url started n (polls + 1)
              (answered settings url body polls s) t := by
            apply ih
            · intro i hi
              have hlater := hanswers (i + 1) (by omega)
              rw [requests_answered, List.length_append, List.length_singleton,
                Nat.add_assoc, Nat.add_comm 1 i]
              exact hlater
            · intro m hm
              have hle := hmax m hm
              omega
          rcases hrest with ⟨t, ht⟩
          exact ⟨t, Rounds.next hlimit hanswer hfirst ht⟩

theorem pollLoop_of_outcome {log body : String} {outcome : Outcome} {bound : Nat}
    (hrounds : Rounds around settings url started n 0 s t) (hbound : n < bound)
    (hlimit : limitReached around settings started n t = false)
    (hanswer : around.answer t.requests.length url = .ok body)
    (hdecides : Decides log (.ok body) (.ok outcome)) :
    pollLoop around settings url log started bound 0 s =
      (.ok (some outcome, n + 1), answered settings url body n t) := by
  rcases Nat.exists_eq_add_of_lt hbound with ⟨fuel, rfl⟩
  rw [Nat.add_assoc, pollLoop_of_rounds log (fuel + 1) hrounds, Nat.zero_add, pollLoop_succ]
  simp [hlimit, hanswer, outcome?_of_decides hdecides]

theorem pollLoop_of_refused (log : String) {e : Failure} {bound : Nat}
    (hrounds : Rounds around settings url started n 0 s t) (hbound : n < bound)
    (hlimit : limitReached around settings started n t = false)
    (hanswer : around.answer t.requests.length url = .error e) :
    pollLoop around settings url log started bound 0 s =
      (.error e, asked settings url n t) := by
  rcases Nat.exists_eq_add_of_lt hbound with ⟨fuel, rfl⟩
  rw [Nat.add_assoc, pollLoop_of_rounds log (fuel + 1) hrounds, Nat.zero_add, pollLoop_succ]
  simp [hlimit, hanswer]

theorem pollLoop_of_limit (log : String) {bound : Nat}
    (hrounds : Rounds around settings url started n 0 s t) (hbound : n < bound)
    (hlimit : limitReached around settings started n t = true) :
    pollLoop around settings url log started bound 0 s = (.ok (none, n), t) := by
  rcases Nat.exists_eq_add_of_lt hbound with ⟨fuel, rfl⟩
  rw [Nat.add_assoc, pollLoop_of_rounds log (fuel + 1) hrounds, Nat.zero_add, pollLoop_succ]
  simp [hlimit]

end Rounds

/-!
## The end of the waiting

Whether the task ended or a limit was reached, the log that the server kept is asked for once. What
comes of that shows in the report and on the disk, but not in how the waiting ends.
-/

def kept (around : Surroundings) (url log : String) (s : Session) : Option String × Session :=
  match storeServerLog around url log s with
  | (.ok path, s) => (some path, s)
  | (.error e, s) => (none, s.remark (.serverLogNotStored e))

def reported (polls : Nat) (stored : Option String) :
    Option Outcome -> Except Failure PollReport
  | some outcome => .ok ⟨outcome, polls, stored⟩
  | none => .error (.pollTimeout polls)

theorem requests_kept (around : Surroundings) (url log : String) (s : Session) :
    (kept around url log s).2.requests = s.requests ++ [serverLogsUrl url] := by
  unfold kept storeServerLog Surroundings.get
  cases around.answer s.requests.length (serverLogsUrl url) with
  | error e => simp
  | ok body =>
      cases hwrite : s.files.write (serverLogCopy log) (Text.encode body) with
      | error e => simp [hwrite]
      | ok files =>
          simp only [Session.files_record, hwrite]
          exact Session.requests_record_request s (serverLogsUrl url)

section Ends

variable {around : Surroundings} {settings : PollSettings} {url log : String} {s t : Session}

theorem poll_of_loop_error {e : Failure}
    (h : pollLoop around settings url log (around.clock s.journal) pollCount 0 s =
      (.error e, t)) :
    poll around settings url log s = (.error e, t) := by
  unfold poll
  rw [h]

theorem poll_of_loop_ok {ended : Option Outcome} {polls : Nat}
    (h : pollLoop around settings url log (around.clock s.journal) pollCount 0 s =
      (.ok (ended, polls), t)) :
    poll around settings url log s =
      (reported polls (kept around url log t).1 ended, (kept around url log t).2) := by
  unfold poll kept
  rw [h]
  dsimp only
  cases storeServerLog around url log t with
  | mk stored u =>
      cases stored <;> cases ended <;> rfl

end Ends

/-!
## Requests are only added
-/

theorem grows_pollLoop (around : Surroundings) (settings : PollSettings) (url log : String)
    (started fuel polls : Nat) (s : Session) :
    Session.Grows s (pollLoop around settings url log started fuel polls s).2 := by
  induction fuel generalizing polls s with
  | zero => exact Session.grows_refl s
  | succ fuel ih =>
      rw [pollLoop_succ]
      split
      · exact Session.grows_refl s
      · cases around.answer s.requests.length url with
        | error e => exact Session.grows_of_requests_eq_append (requests_asked settings url polls s)
        | ok body =>
            have hround : Session.Grows s (answered settings url body polls s) :=
              Session.grows_of_requests_eq_append (requests_answered settings url body polls s)
            dsimp only
            split
            · exact hround
            · exact hround.trans (ih (polls + 1) (answered settings url body polls s))

theorem grows_poll (around : Surroundings) (settings : PollSettings) (url log : String)
    (s : Session) : Session.Grows s (poll around settings url log s).2 := by
  have hgrows :=
    grows_pollLoop around settings url log (around.clock s.journal) pollCount 0 s
  cases hloop : pollLoop around settings url log (around.clock s.journal) pollCount 0 s with
  | mk result t =>
      rw [hloop] at hgrows
      cases result with
      | error e =>
          rw [poll_of_loop_error hloop]
          exact hgrows
      | ok ended =>
          cases ended with
          | mk ended polls =>
              rw [poll_of_loop_ok hloop]
              exact hgrows.trans
                (Session.grows_of_requests_eq_append (requests_kept around url log t))

theorem requests_announcedTask (log : String) (s : Session) :
    (announcedTask log s).2.requests = s.requests := by
  unfold announcedTask
  cases hlines : Log.readLines s.files log <;> simp [hlines]

theorem grows_waitForAnalysis (around : Surroundings) (settings : PollSettings) (log : String)
    (s : Session) : Session.Grows s (waitForAnalysis around settings log s).2 := by
  have hannounced : Session.Grows s (announcedTask log s).2 :=
    Session.grows_of_requests_eq (requests_announcedTask log s)
  unfold waitForAnalysis
  cases htask : announcedTask log s with
  | mk url t =>
      rw [htask] at hannounced
      dsimp only
      split
      · exact hannounced
      · exact hannounced.trans (grows_poll around settings url log t)

/-!
## What settles the waiting
-/

def statusAnswer (around : Surroundings) (url : String) (s : Session) (i : Nat) :
    Except Failure String :=
  around.answer (s.requests.length + i) url

theorem exists_next_round {around : Surroundings} {settings : PollSettings} {url : String}
    {s : Session} {k : Nat} (started : Nat) (hno : settings.timeoutMs = none)
    (hmax : forall m, settings.maxPolls = some m -> k + 1 ≤ m)
    (hundecided : forall i, i < k -> Undecided (statusAnswer around url s i)) :
    exists t,
      Rounds around settings url started k 0 s t ∧
      limitReached around settings started k t = false ∧
      around.answer t.requests.length url = statusAnswer around url s k := by
  have hmaxRounds : forall m, settings.maxPolls = some m -> 0 + k ≤ m := by
    intro m hm
    have hle := hmax m hm
    omega
  rcases exists_rounds started hno hundecided hmaxRounds with ⟨t, hrounds⟩
  refine ⟨t, hrounds, ?_, ?_⟩
  · exact limitReached_eq_false around hno hmax started t
  · rw [requests_of_rounds hrounds, statusAnswer, List.length_append, List.length_replicate]

/--
Without a limit of time, waiting is settled by the first answer that decides, or by the number of
requests if that is reached before. The requests are those for the status, one for each answer up
to then, and after them one for the log of the server unless a request failed.
-/
theorem poll_settled_by_first_decision (around : Surroundings) (settings : PollSettings)
    (url log : String) (s : Session) (hno : settings.timeoutMs = none) :
    (forall answer, Undecided answer <-> Not (exists result, Decides log answer result)) ∧
    (forall k outcome,
      k + 1 < pollCount ->
      (forall m, settings.maxPolls = some m -> k + 1 ≤ m) ->
      (forall i, i < k -> Undecided (statusAnswer around url s i)) ->
      Decides log (statusAnswer around url s k) (.ok outcome) ->
      exists stored t,
        poll around settings url log s = (.ok ⟨outcome, k + 1, stored⟩, t) ∧
        t.requests = s.requests ++ List.replicate (k + 1) url ++ [serverLogsUrl url]) ∧
    (forall k e,
      k + 1 < pollCount ->
      (forall m, settings.maxPolls = some m -> k + 1 ≤ m) ->
      (forall i, i < k -> Undecided (statusAnswer around url s i)) ->
      statusAnswer around url s k = .error e ->
      exists t,
        poll around settings url log s = (.error e, t) ∧
        t.requests = s.requests ++ List.replicate (k + 1) url ∧
        t.files = s.files) ∧
    (forall m,
      settings.maxPolls = some m ->
      m < pollCount ->
      (forall i, i < m -> Undecided (statusAnswer around url s i)) ->
      exists t,
        poll around settings url log s = (.error (.pollTimeout m), t) ∧
        t.requests = s.requests ++ List.replicate m url ++ [serverLogsUrl url]) := by
  refine ⟨undecided_iff_not_decides log, ?_, ?_, ?_⟩
  · intro k outcome hcount hmax hundecided hdecides
    rcases exists_next_round (around.clock s.journal) hno hmax hundecided with
      ⟨t, hrounds, hlimit, hanswer⟩
    rw [← hanswer] at hdecides
    cases hbody : around.answer t.requests.length url with
    | error e =>
        rw [hbody] at hdecides
        cases hdecides
    | ok body =>
        rw [hbody] at hdecides
        have hloop := pollLoop_of_outcome hrounds (Nat.lt_of_succ_lt hcount) hlimit hbody hdecides
        refine ⟨_, _, poll_of_loop_ok hloop, ?_⟩
        rw [requests_kept, requests_answered, requests_of_rounds hrounds, List.replicate_succ']
        simp
  · intro k e hcount hmax hundecided hrefused
    rcases exists_next_round (around.clock s.journal) hno hmax hundecided with
      ⟨t, hrounds, hlimit, hanswer⟩
    rw [← hanswer] at hrefused
    have hloop := pollLoop_of_refused log hrounds (Nat.lt_of_succ_lt hcount) hlimit hrefused
    refine ⟨_, poll_of_loop_error hloop, ?_, ?_⟩
    · rw [requests_asked, requests_of_rounds hrounds, List.replicate_succ']
      simp
    · rw [files_asked, files_of_rounds hrounds]
  · intro m hm hcount hundecided
    have hmax : forall m', settings.maxPolls = some m' -> 0 + m ≤ m' := by
      intro m' hm'
      rw [hm] at hm'
      cases hm'
      omega
    rcases exists_rounds (around.clock s.journal) hno hundecided hmax with
      ⟨t, hrounds⟩
    have hlimit : limitReached around settings (around.clock s.journal) m t = true := by
      rw [limitReached_of_no_timeout around hno, hm]
      simp
    have hloop := pollLoop_of_limit log hrounds hcount hlimit
    refine ⟨_, poll_of_loop_ok hloop, ?_⟩
    rw [requests_kept, requests_of_rounds hrounds]

def statusDocument (word : String) : String :=
  "\x7b\"task\":\x7b\"id\":\"T1\",\"status\":\"" ++ word ++ "\"\x7d\x7d"

theorem exists_document_of_status {body : String} {status : Status}
    (h : (Form.read body.toList).toOption.bind statusOfForm? = some status) :
    exists document, Form.read body.toList = .ok document ∧
      statusOfForm? document = some status := by
  cases hread : Form.read body.toList with
  | error e =>
      rw [hread] at h
      cases h
  | ok document =>
      rw [hread] at h
      exact ⟨document, rfl, h⟩

def slowScript (rest : List (Except Failure String)) : Surroundings :=
  .scripted (.ok " \n" :: .ok (statusDocument "PENDING") :: rest)

theorem poll_settled_after_two_undecided :
    (exists stored t,
      poll (slowScript [.ok (statusDocument "SUCCESS"), .ok "task log"]) ⟨250, some 3, none⟩
          "http://s/task?id=T1" "a.log" (.start .empty) =
        (.ok ⟨.success, 3, stored⟩, t) ∧
      t.requests = List.replicate 3 "http://s/task?id=T1" ++ ["http://s/logs?taskId=T1"]) ∧
    (exists t,
      poll (slowScript [.error (.http "refused")]) ⟨250, none, none⟩
          "http://s/task?id=T1" "a.log" (.start .empty) =
        (.error (.http "refused"), t) ∧
      t.requests = List.replicate 3 "http://s/task?id=T1" ∧
      t.files = .empty) ∧
    (exists t,
      poll (slowScript []) ⟨250, some 2, none⟩ "http://s/task?id=T1" "a.log" (.start .empty) =
        (.error (.pollTimeout 2), t) ∧
      t.requests = List.replicate 2 "http://s/task?id=T1" ++ ["http://s/logs?taskId=T1"]) := by
  have hundecided : forall rest i, i < 2 ->
      Undecided (statusAnswer (slowScript rest) "http://s/task?id=T1" (.start .empty) i) := by
    intro rest i hi
    rcases @exists_document_of_status (statusDocument "PENDING") (Status.ofWord "PENDING")
      (by decide +kernel) with ⟨document, hread, hstatus⟩
    match i, hi with
    | 0, _ => exact Undecided.blank (by decide)
    | 1, _ => exact Undecided.notFinal hread hstatus (by decide) (by decide)
  rcases @exists_document_of_status (statusDocument "SUCCESS") (Status.ofWord "SUCCESS")
    (by decide +kernel) with ⟨document, hread, hstatus⟩
  have hlogs : serverLogsUrl "http://s/task?id=T1" = "http://s/logs?taskId=T1" := by
    decide +kernel
  rw [← hlogs]
  refine ⟨?_, ?_, ?_⟩
  · exact (poll_settled_by_first_decision _ _ _ _ _ rfl).2.1 2 .success (by decide)
      (by intro m hm; cases hm; decide) (hundecided _) (Decides.success hread hstatus)
  · exact (poll_settled_by_first_decision _ _ _ _ _ rfl).2.2.1 2 _ (by decide)
      (by intro m hm; cases hm) (hundecided _) rfl
  · exact (poll_settled_by_first_decision _ _ _ _ _ rfl).2.2.2 2 rfl (by decide)
      (hundecided _)

end Task
end AnalysisHarness
