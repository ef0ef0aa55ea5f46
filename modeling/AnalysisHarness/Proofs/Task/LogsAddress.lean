import AnalysisHarness.Proofs.Task.LastRound
import AnalysisHarness.Proofs.Text.Replacing

/-!
# The address of the log of a task

The server gives its log of a task at the address of the status with another query. Every query for
the status is replaced, and none comes about by that. So the last request of a waiting differs from
those for the status exactly if their address has such a query.
-/

namespace AnalysisHarness
namespace Task

open Text

def HasTaskQuery (url : String) : Prop :=
  exists before after, url = before ++ "task?id" ++ after

/-- The one query for the status in an address, between what stands before and after it. -/
structure OnlyTaskQuery (before after url : String) : Prop where
  split : url = before ++ "task?id" ++ after
  only : forall before' after', url = before' ++ "task?id" ++ after' -> before' = before

theorem hasTaskQuery_iff {url : String} :
    HasTaskQuery url <-> "task?id".toList <:+: url.toList := by
  constructor
  · rintro ⟨before, after, rfl⟩
    exact ⟨before.toList, after.toList, by rw [String.toList_append, String.toList_append]⟩
  · rintro ⟨before, after, hsplit⟩
    refine ⟨String.ofList before, String.ofList after, ?_⟩
    apply String.toList_inj.mp
    rw [← hsplit]
    simp

/-!
## What replacing does
-/

theorem taskQuery_ne_nil : "task?id".toList ≠ [] := by
  decide

theorem keepsOut_logsQuery : KeepsOut "task?id".toList "logs?taskId".toList := by
  intro before after h
  have hwritten : "logs?taskId".toList ++ after =
      'l' :: ("ogs?task".toList ++ 'I' :: 'd' :: after) := rfl
  rw [hwritten] at h
  rcases infix_append_cons (by decide) h with hbefore | h
  · exact Or.inl hbefore
  · rcases infix_append_cons (by decide) h with hinside | h
    · exact absurd hinside (by decide)
    · rcases List.infix_cons_iff.mp h with hstart | hafter
      · have hfirst : 't' :: "ask?id".toList <+: 'd' :: after := hstart
        exact absurd (List.cons_prefix_cons.mp hfirst).1 (by decide)
      · exact Or.inr hafter

theorem toList_serverLogsUrl (url : String) :
    (serverLogsUrl url).toList =
      replaceAll "task?id".toList "logs?taskId".toList url.toList :=
  String.toList_ofList

theorem not_hasTaskQuery_serverLogsUrl (url : String) : ¬HasTaskQuery (serverLogsUrl url) := by
  rw [hasTaskQuery_iff, toList_serverLogsUrl]
  exact not_infix_replaceAll taskQuery_ne_nil keepsOut_logsQuery url.toList

theorem serverLogsUrl_eq_self_iff {url : String} :
    serverLogsUrl url = url <-> ¬HasTaskQuery url := by
  rw [← String.toList_inj, toList_serverLogsUrl, hasTaskQuery_iff]
  exact replaceAll_eq_self_iff taskQuery_ne_nil keepsOut_logsQuery

theorem OnlyTaskQuery.serverLogsUrl_eq {before after url : String}
    (h : OnlyTaskQuery before after url) :
    serverLogsUrl url = before ++ "logs?taskId" ++ after := by
  apply String.toList_inj.mp
  rw [toList_serverLogsUrl, String.toList_append, String.toList_append, List.append_assoc]
  apply replaceAll_of_only_occurrence taskQuery_ne_nil
  · rw [h.split, String.toList_append, String.toList_append, List.append_assoc]
  · intro before' after' hsplit
    have hother := h.only (String.ofList before') (String.ofList after') (by
      apply String.toList_inj.mp
      rw [hsplit]
      simp)
    rw [← hother, String.toList_ofList]

/-!
## Requests for the status and for the log
-/

/--
A waiting asks for the status again and again. Unless one of these requests fails, it then asks for
the log once.
-/
theorem requests_poll (around : Surroundings) (settings : PollSettings) (url log : String)
    (s : Session) :
    exists n,
      (poll around settings url log s).2.requests =
          s.requests ++ List.replicate n url ++ [serverLogsUrl url] ∨
        (poll around settings url log s).2.requests = s.requests ++ List.replicate (n + 1) url ∧
          exists e, statusAnswer around url s n = .error e ∧
            (poll around settings url log s).1 = .error e := by
  rcases rounds_or_lastRound around settings url log (around.clock s.journal) pollCount 0 s with
    ⟨t, hrounds⟩ | ⟨n, t, result, u, hn, hrounds, hlast⟩
  · have hloop := pollLoop_of_rounds log 0 hrounds
    rw [poll_of_loop_ok hloop]
    exact ⟨pollCount, Or.inl (by rw [requests_kept, requests_of_rounds hrounds])⟩
  · rw [Nat.zero_add] at hlast
    have hsent := requests_of_rounds hrounds
    rw [poll_of_lastRound hn hrounds hlast]
    cases hlast with
    | limited _hlimit => exact ⟨n, Or.inl (by rw [waited, requests_kept, hsent])⟩
    | @refused e _hlimit hanswer =>
        refine ⟨n, Or.inr ⟨?_, e, ?_, rfl⟩⟩
        · rw [waited, requests_asked, hsent, List.append_assoc, ← List.replicate_succ']
        · rw [statusAnswer, ← hanswer, length_requests_of_rounds hrounds]
    | decided _hlimit _hanswer _hdecides =>
        refine ⟨n + 1, Or.inl ?_⟩
        rw [waited, requests_kept, requests_answered, hsent, List.append_assoc s.requests,
          ← List.replicate_succ']

/--
The address of the log has no query for the status in it. It is the address of the status with every
such query replaced and nothing else changed, so it is the same exactly if there is no such query,
and replacing again changes nothing. Unless a request for the status fails, the last request of a
waiting is for the log, and it differs from the others exactly if their address has such a query.
A waiting without limits ends after `pollCount` requests here, where the count of them ends.
-/
theorem serverLogsUrl_replaces_every_task_query (url : String) :
    ¬HasTaskQuery (serverLogsUrl url) ∧
    (serverLogsUrl url = url <-> ¬HasTaskQuery url) ∧
    serverLogsUrl (serverLogsUrl url) = serverLogsUrl url ∧
    (forall a b, OnlyTaskQuery a b url -> serverLogsUrl url = a ++ "logs?taskId" ++ b) ∧
    (exists parts : List (List Char),
      (forall part, part ∈ parts -> ¬"task?id".toList <:+: part) ∧
      url.toList = joinSegments "task?id".toList parts ∧
      (serverLogsUrl url).toList = joinSegments "logs?taskId".toList parts) ∧
    forall (around : Surroundings) (settings : PollSettings) (log : String) (s : Session),
      exists n,
        (poll around settings url log s).2.requests =
            s.requests ++ List.replicate n url ++ [serverLogsUrl url] ∧
          (serverLogsUrl url ≠ url <-> HasTaskQuery url) ∨
        (poll around settings url log s).2.requests = s.requests ++ List.replicate (n + 1) url ∧
          exists e, statusAnswer around url s n = .error e ∧
            (poll around settings url log s).1 = .error e := by
  refine ⟨not_hasTaskQuery_serverLogsUrl url, serverLogsUrl_eq_self_iff, ?_, ?_, ?_, ?_⟩
  · exact serverLogsUrl_eq_self_iff.mpr (not_hasTaskQuery_serverLogsUrl url)
  · intro a b
    exact OnlyTaskQuery.serverLogsUrl_eq
  · rcases exists_parts taskQuery_ne_nil url.toList with ⟨parts, _hparts, hfree, hurl, hreplaced⟩
    refine ⟨parts, hfree, hurl, ?_⟩
    rw [toList_serverLogsUrl]
    exact hreplaced _
  · intro around settings log s
    rcases requests_poll around settings url log s with ⟨n, hrequests | hrefused⟩
    · exact ⟨n, Or.inl ⟨hrequests, not_iff_comm.mpr serverLogsUrl_eq_self_iff.symm⟩⟩
    · exact ⟨n, Or.inr hrefused⟩

theorem onlyTaskQuery_of_positions {before after : String} {url : List Char}
    (hsplit : url = (before ++ "task?id" ++ after).toList)
    (honly : forall i, i < url.length -> "task?id".toList <+: url.drop i ->
      i = before.toList.length) :
    OnlyTaskQuery before after (before ++ "task?id" ++ after) where
  split := rfl
  only before' after' hother := by
    have hchars : url = before'.toList ++ ("task?id".toList ++ after'.toList) := by
      rw [hsplit, hother, String.toList_append, String.toList_append, List.append_assoc]
    have hposition : before'.toList.length = before.toList.length := by
      apply honly
      · rw [hchars]
        simp
      · rw [hchars, List.drop_left]
        exact List.prefix_append _ _
    rw [hsplit, String.toList_append, String.toList_append, List.append_assoc] at hchars
    exact String.toList_inj.mp (List.append_inj hchars.symm hposition).1

theorem serverLogsUrl_among_beginnings_of_queries :
    OnlyTaskQuery "http://s/task?i/" "=task?i" "http://s/task?i/task?id=task?i" ∧
    serverLogsUrl "http://s/task?i/task?id=task?i" = "http://s/task?i/logs?taskId=task?i" := by
  have honly : OnlyTaskQuery "http://s/task?i/" "=task?i" "http://s/task?i/task?id=task?i" :=
    onlyTaskQuery_of_positions rfl (by decide)
  rcases serverLogsUrl_replaces_every_task_query "http://s/task?i/task?id=task?i" with
    ⟨_hgone, _hself, _htwice, hreplaced, _hparts, _hrequests⟩
  exact ⟨honly, hreplaced _ _ honly⟩

end Task
end AnalysisHarness
