import AnalysisHarness.Wording
import AnalysisHarness.Workspace.Basic

/-!
# Failures

Everything that can end an activity early. Some failures say that what was checked is not as it
should be; the others say that it could not be checked.
-/

namespace AnalysisHarness

/-- Why an activity ended early. -/
inductive Failure where
  | configParse (reason : String)
  | pathNotFound (path : String)
  | invalidPattern (reason : Pattern.ReadError)
  | http (reason : String)
  | measuresUnavailable (reason : String)
  | taskFailed (reason : String)
  | pollTimeout (polls : Nat)
  | measureMismatch (lines : String)
  | badLogLines (message : String)
  | assertionFailed (reason : String)
  | io (reason : IoError)
  | json (reason : Json.ReadError)
  deriving DecidableEq, Repr

namespace Failure

def message [Wording] : Failure -> String
  | configParse reason => "config parse error: " ++ reason
  | pathNotFound path => "path does not exist: " ++ path
  | invalidPattern reason => "invalid log pattern: " ++ reason.message
  | http reason => "http error: " ++ reason
  | measuresUnavailable reason => reason
  | taskFailed reason => reason
  | pollTimeout polls => "background task still running after " ++ toString polls ++ " poll(s)"
  | measureMismatch lines => "measures differ:\n" ++ lines
  | badLogLines message => message
  | assertionFailed reason => reason
  | io reason => "io error: " ++ reason.message
  | json reason => "json error: " ++ reason.message

/-- Whether the failure says that what was checked is not as it should be. -/
def isCheckFailure : Failure -> Bool
  | measuresUnavailable _ | taskFailed _ | measureMismatch _ | badLogLines _
  | assertionFailed _ => true
  | _ => false

def ofIo : Except IoError α -> Except Failure α
  | .ok a => .ok a
  | .error e => .error (io e)

def ofPattern : Except Pattern.ReadError α -> Except Failure α
  | .ok a => .ok a
  | .error e => .error (invalidPattern e)

end Failure
end AnalysisHarness
