/-!
# The status of a background task

A server names the state of a task by a word in capitals. Words that mean nothing here are kept as
they are.
-/

namespace AnalysisHarness
namespace Task

inductive Status where
  | pending
  | inProgress
  | success
  | failed
  | other (word : String)
  deriving DecidableEq, Repr

namespace Status

def ofWord (word : String) : Status :=
  if word = "PENDING" then pending
  else if word = "IN_PROGRESS" then inProgress
  else if word = "SUCCESS" then success
  else if word = "FAILED" then failed
  else other word

def word : Status -> String
  | pending => "PENDING"
  | inProgress => "IN_PROGRESS"
  | success => "SUCCESS"
  | failed => "FAILED"
  | other word => word

theorem word_ofWord (w : String) : (ofWord w).word = w := by
  unfold ofWord
  repeat' split
  all_goals simp_all [word]

end Status

end Task
end AnalysisHarness
