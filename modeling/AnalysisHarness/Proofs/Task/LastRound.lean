import AnalysisHarness.Proofs.Task.Storing

/-!
# The last round of waiting for a task

A run of the loop is some undecided rounds and then a last one. In the last one a limit is reached,
the request fails or the answer decides. This module cuts every run there, whatever its limits and
its answers are, and counts the requests for the status.
-/

namespace AnalysisHarness
namespace Task

section LastRound

variable {around : Surroundings} {settings : PollSettings} {url log : String}
variable {started n polls : Nat} {s t u : Session}
variable {result : Except Failure (Option Outcome × Nat)}

/-- What the loop comes to in the round after `polls` undecided ones, and the session after it. -/
inductive LastRound (around : Surroundings) (settings : PollSettings) (url log : String)
    (started polls : Nat) (t : Session) :
    Except Failure (Option Outcome × Nat) -> Session -> Prop where
  | limited :
      limitReached around settings started polls t = true ->
      LastRound around settings url log started polls t (.ok (none, polls)) t
  | refused {e : Failure} :
      limitReached around settings started polls t = false ->
      around.answer t.requests.length url = .error e ->
      LastRound around settings url log started polls t (.error e) (asked settings url polls t)
  | decided {body : String} {outcome : Outcome} :
      limitReached around settings started polls t = false ->
      around.answer t.requests.length url = .ok body ->
      Decides log (.ok body) (.ok outcome) ->
      LastRound around settings url log started polls t (.ok (some outcome, polls + 1))
        (answered settings url body polls t)

theorem pollLoop_of_lastRound (fuel : Nat)
    (h : LastRound around settings url log started polls t result u) :
    pollLoop around settings url log started (fuel + 1) polls t = (result, u) := by
  rw [pollLoop_succ]
  cases h with
  | limited hlimit => simp only [hlimit, if_true]
  | refused hlimit hanswer => simp [hlimit, hanswer]
  | decided hlimit hanswer hdecides => simp [hlimit, hanswer, outcome?_of_decides hdecides]

/-- So many rounds leave the task undecided, or one of them is the last one. -/
theorem rounds_or_lastRound (around : Surroundings) (settings : PollSettings) (url log : String)
    (started fuel polls : Nat) (s : Session) :
    (exists t, Rounds around settings url started fuel polls s t) ∨
      exists n t result u,
        n < fuel ∧ Rounds around settings url started n polls s t ∧
        LastRound around settings url log started (polls + n) t result u := by
  induction fuel generalizing polls s with
  | zero => exact Or.inl ⟨s, Rounds.none polls s⟩
  | succ fuel ih =>
      -- the first round is the last one, or the others follow an undecided one
      by_cases hlimit : limitReached around settings started polls s = true
      · exact Or.inr ⟨0, s, _, _, Nat.succ_pos fuel, Rounds.none polls s, .limited hlimit⟩
      · rw [Bool.not_eq_true] at hlimit
        cases hanswer : around.answer s.requests.length url with
        | error e =>
            exact Or.inr
              ⟨0, s, _, _, Nat.succ_pos fuel, Rounds.none polls s, .refused hlimit hanswer⟩
        | ok body =>
            rcases undecided_or_decides log (.ok body) with hundecided | ⟨decision, hdecides⟩
            · rcases ih (polls + 1) (answered settings url body polls s) with
                ⟨t, hrounds⟩ | ⟨n, t, result, u, hn, hrounds, hlast⟩
              · exact Or.inl ⟨t, Rounds.next hlimit hanswer hundecided hrounds⟩
              · rw [Nat.add_assoc, Nat.add_comm 1 n] at hlast
                exact Or.inr ⟨n + 1, t, result, u, Nat.succ_lt_succ hn,
                  Rounds.next hlimit hanswer hundecided hrounds, hlast⟩
            · cases decision with
              | error e => cases hdecides
              | ok outcome =>
                  exact Or.inr ⟨0, s, _, _, Nat.succ_pos fuel, Rounds.none polls s,
                    .decided hlimit hanswer hdecides⟩

/-!
## How many requests there are for the status
-/

def statusRequests (around : Surroundings) (settings : PollSettings) (url log : String)
    (s : Session) : Nat :=
  (pollLoop around settings url log (around.clock s.journal) pollCount 0 s).2.requests.length -
    s.requests.length

theorem statusRequests_of_loop {ended : Except Failure (Option Outcome × Nat)}
    (hloop : pollLoop around settings url log (around.clock s.journal) pollCount 0 s = (ended, u))
    (hlength : u.requests.length = s.requests.length + n) :
    statusRequests around settings url log s = n := by
  unfold statusRequests
  rw [hloop, hlength, Nat.add_sub_cancel_left]

theorem statusRequests_of_rounds
    (hrounds : Rounds around settings url (around.clock s.journal) pollCount 0 s t) :
    statusRequests around settings url log s = pollCount := by
  have hloop := pollLoop_of_rounds log 0 hrounds
  rw [Nat.add_zero, Nat.zero_add] at hloop
  exact statusRequests_of_loop hloop (length_requests_of_rounds hrounds)

def sentBy (undecided : Nat) : Except Failure (Option Outcome × Nat) -> Nat
  | .ok (none, _) => undecided
  | .ok (some _, _) => undecided + 1
  | .error _ => undecided + 1

theorem length_requests_of_lastRound (hrounds : Rounds around settings url started n 0 s t)
    (hlast : LastRound around settings url log started n t result u) :
    u.requests.length = s.requests.length + sentBy n result := by
  have hsent := length_requests_of_rounds hrounds
  cases hlast with
  | limited _hlimit => exact hsent
  | refused _hlimit _hanswer =>
      rw [requests_asked, List.length_append, List.length_singleton, hsent, sentBy, Nat.add_assoc]
  | decided _hlimit _hanswer _hdecides =>
      rw [requests_answered, List.length_append, List.length_singleton, hsent, sentBy,
        Nat.add_assoc]

theorem pollLoop_of_rounds_of_lastRound {bound : Nat} (hbound : n < bound)
    (hrounds : Rounds around settings url started n 0 s t)
    (hlast : LastRound around settings url log started n t result u) :
    pollLoop around settings url log started bound 0 s = (result, u) := by
  rcases Nat.exists_eq_add_of_lt hbound with ⟨fuel, rfl⟩
  rw [Nat.add_assoc, pollLoop_of_rounds log (fuel + 1) hrounds, Nat.zero_add]
  exact pollLoop_of_lastRound fuel hlast

theorem statusRequests_of_lastRound (hbound : n < pollCount)
    (hrounds : Rounds around settings url (around.clock s.journal) n 0 s t)
    (hlast : LastRound around settings url log (around.clock s.journal) n t result u) :
    statusRequests around settings url log s = sentBy n result :=
  statusRequests_of_loop (pollLoop_of_rounds_of_lastRound hbound hrounds hlast)
    (length_requests_of_lastRound hrounds hlast)

theorem exists_lastRound (hcount : statusRequests around settings url log s < pollCount) :
    exists n t result u,
      n < pollCount ∧ Rounds around settings url (around.clock s.journal) n 0 s t ∧
      LastRound around settings url log (around.clock s.journal) n t result u := by
  rcases rounds_or_lastRound around settings url log (around.clock s.journal) pollCount 0 s with
    ⟨t, hrounds⟩ | ⟨n, t, result, u, hn, hrounds, hlast⟩
  · -- undecided rounds alone would be as many requests as can be counted
    rw [statusRequests_of_rounds hrounds] at hcount
    exact absurd hcount (Nat.lt_irrefl pollCount)
  · rw [Nat.zero_add] at hlast
    exact ⟨n, t, result, u, hn, hrounds, hlast⟩

def waited (around : Surroundings) (url log : String) :
    Except Failure (Option Outcome × Nat) -> Session -> Except Failure PollReport × Session
  | .error e, u => (.error e, u)
  | .ok (ended, polls), u =>
      (reported polls (kept around url log u).1 ended, (kept around url log u).2)

theorem poll_of_lastRound (hbound : n < pollCount)
    (hrounds : Rounds around settings url (around.clock s.journal) n 0 s t)
    (hlast : LastRound around settings url log (around.clock s.journal) n t result u) :
    poll around settings url log s = waited around url log result u := by
  have hloop := pollLoop_of_rounds_of_lastRound hbound hrounds hlast
  cases result with
  | error e => exact poll_of_loop_error hloop
  | ok ended => exact poll_of_loop_ok hloop

theorem exists_rounds_of_le {m : Nat} (hle : m ≤ n)
    (h : Rounds around settings url started n polls s t) :
    exists r, Rounds around settings url started m polls s r := by
  induction h generalizing m with
  | none polls s =>
      cases Nat.le_zero.mp hle
      exact ⟨s, Rounds.none polls s⟩
  | @next n polls body s t hlimit hanswer hundecided _hrest ih =>
      cases m with
      | zero => exact ⟨s, Rounds.none polls s⟩
      | succ m =>
          rcases ih (Nat.le_of_succ_le_succ hle) with ⟨r, hr⟩
          exact ⟨r, Rounds.next hlimit hanswer hundecided hr⟩

theorem lt_pollCount_of_rounds (hcount : statusRequests around settings url log s < pollCount)
    (h : Rounds around settings url (around.clock s.journal) n 0 s t) : n < pollCount := by
  apply Nat.lt_of_not_le
  intro hle
  -- so many rounds would begin with as many as can be counted
  rcases exists_rounds_of_le hle h with ⟨r, hr⟩
  rw [statusRequests_of_rounds hr] at hcount
  exact Nat.lt_irrefl pollCount hcount

/-!
## The limit of requests
-/

theorem lt_of_limitReached_eq_false {m : Nat} (hm : settings.maxPolls = some m)
    (h : limitReached around settings started polls s = false) : polls < m := by
  simp only [limitReached, hm, Option.any_some, Bool.or_eq_false_iff, decide_eq_false_iff_not,
    Nat.not_le] at h
  exact h.1

theorem limitReached_zero_iff :
    limitReached around settings started 0 s = true <-> settings.maxPolls = some 0 := by
  cases hm : settings.maxPolls <;> simp [limitReached, hm]

theorem rounds_le_of_maxPolls {m : Nat} (hm : settings.maxPolls = some m)
    (h : Rounds around settings url started n polls s t) : n = 0 ∨ polls + n ≤ m := by
  induction h with
  | none polls s => exact Or.inl rfl
  | @next n polls body s t hlimit _hanswer _hundecided _hrest ih =>
      have hpolls : polls < m := lt_of_limitReached_eq_false hm hlimit
      rcases ih with hn | hle <;> exact Or.inr (by omega)

theorem sentBy_le_of_lastRound {m : Nat} (hm : settings.maxPolls = some m)
    (hrounds : Rounds around settings url started n 0 s t)
    (hlast : LastRound around settings url log started n t result u) : sentBy n result ≤ m := by
  cases hlast with
  | limited _hlimit =>
      change n ≤ m
      rcases rounds_le_of_maxPolls hm hrounds with hn | hle <;> omega
  | refused hlimit _hanswer => exact lt_of_limitReached_eq_false hm hlimit
  | decided hlimit _hanswer _hdecides => exact lt_of_limitReached_eq_false hm hlimit

theorem statusRequests_le {m : Nat} (hm : settings.maxPolls = some m) :
    statusRequests around settings url log s ≤ m := by
  rcases rounds_or_lastRound around settings url log (around.clock s.journal) pollCount 0 s with
    ⟨t, hrounds⟩ | ⟨n, t, result, u, hn, hrounds, hlast⟩
  · rw [statusRequests_of_rounds hrounds]
    rcases rounds_le_of_maxPolls hm hrounds with hzero | hle
    · cases hzero
    · rwa [Nat.zero_add] at hle
  · rw [Nat.zero_add] at hlast
    rw [statusRequests_of_lastRound hn hrounds hlast]
    exact sentBy_le_of_lastRound hm hrounds hlast

theorem statusRequests_eq_zero_iff :
    statusRequests around settings url log s = 0 <-> settings.maxPolls = some 0 := by
  constructor
  · intro hnone
    rcases rounds_or_lastRound around settings url log (around.clock s.journal) pollCount 0 s with
      ⟨t, hrounds⟩ | ⟨n, t, result, u, hn, hrounds, hlast⟩
    · rw [statusRequests_of_rounds hrounds] at hnone
      cases hnone
    · rw [Nat.zero_add] at hlast
      rw [statusRequests_of_lastRound hn hrounds hlast] at hnone
      cases hlast with
      | limited hlimit =>
          -- only the count can end the waiting before the first request
          cases (hnone : n = 0)
          exact limitReached_zero_iff.mp hlimit
      | refused _hlimit _hanswer => cases hnone
      | decided _hlimit _hanswer _hdecides => cases hnone
  · intro hm
    exact Nat.le_zero.mp (statusRequests_le hm)

/--
Unless no request is allowed at all, a waiting that reaches a limit has sent a request. Only a
request that fails could claim otherwise.
-/
theorem poll_ne_pollTimeout_zero (hm : settings.maxPolls ≠ some 0)
    (hanswers : forall k, statusAnswer around url s k ≠ .error (.pollTimeout 0)) :
    (poll around settings url log s).1 ≠ .error (.pollTimeout 0) := by
  intro hpoll
  rcases rounds_or_lastRound around settings url log (around.clock s.journal) pollCount 0 s with
    ⟨t, hrounds⟩ | ⟨n, t, result, u, hn, hrounds, hlast⟩
  · have hloop := pollLoop_of_rounds log 0 hrounds
    rw [poll_of_loop_ok hloop] at hpoll
    cases hpoll
  · rw [Nat.zero_add] at hlast
    rw [poll_of_lastRound hn hrounds hlast] at hpoll
    cases hlast with
    | limited hlimit =>
        cases hpoll
        exact hm (limitReached_zero_iff.mp hlimit)
    | refused _hlimit hanswer =>
        cases hpoll
        rw [length_requests_of_rounds hrounds] at hanswer
        exact hanswers n hanswer
    | decided _hlimit _hanswer _hdecides => cases hpoll

end LastRound

end Task
end AnalysisHarness
