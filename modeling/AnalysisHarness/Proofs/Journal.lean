import AnalysisHarness.Session

/-!
# Journals only grow

Nothing that has been asked of the server is ever taken back: an activity adds its own requests
after those of the activities before it. So the requests of activities in a row are those of each
of them in a row.
-/

namespace AnalysisHarness

/-- The requests of a session begin with those of an earlier one. -/
def Session.Grows (s t : Session) : Prop :=
  s.requests <+: t.requests

def Session.added (s t : Session) : List String :=
  t.requests.drop s.requests.length

namespace Session

theorem grows_refl (s : Session) : Grows s s :=
  List.prefix_refl s.requests

theorem Grows.trans {s t u : Session} (hst : Grows s t) (htu : Grows t u) : Grows s u :=
  List.IsPrefix.trans hst htu

theorem grows_of_requests_eq_append {s t : Session} {more : List String}
    (h : t.requests = s.requests ++ more) : Grows s t := by
  exists more
  exact h.symm

theorem grows_of_requests_eq {s t : Session} (h : t.requests = s.requests) : Grows s t := by
  exists []
  rw [List.append_nil]
  exact h.symm

theorem requests_eq_append_added {s t : Session} (h : Grows s t) :
    t.requests = s.requests ++ added s t := by
  rcases h with ⟨more, hmore⟩
  rw [added, ← hmore, List.drop_left]

end Session

namespace Surroundings

/-- Surroundings in which the answers to all requests are given one after another. -/
def scripted (answers : List (Except Failure String)) : Surroundings where
  answer n _ := answers[n]?.getD (.error (.http "script exhausted"))
  clock _ := 0
  today := ⟨2016, 3, 7⟩
  environment _ := none
  shell _ files := (.ok 0, files)

end Surroundings

end AnalysisHarness
