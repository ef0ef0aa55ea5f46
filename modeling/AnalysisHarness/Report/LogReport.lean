import AnalysisHarness.Failure
import AnalysisHarness.Json.Printer
import AnalysisHarness.Log.Verdict
import AnalysisHarness.Report.Palette

/-!
# Reports on logs

The verdict on a log with the name of the log, as a text for people, as JSON, and as a check that
fails unless the log is clean. Whether it is clean follows from the verdict, so it is no field of a
report but read off the verdict wherever it is asked for.
-/

namespace AnalysisHarness

/-- The verdict on a log that has a name. -/
structure LogReport where
  log : String
  verdict : Log.Verdict
  deriving DecidableEq, Repr

namespace LogReport

def isClean (r : LogReport) : Bool := r.verdict.isClean

def badLinesMessage (r : LogReport) (p : Palette) : String :=
  "Found following errors and/or warnings lines in the logfile:\n" ++
    String.join (r.verdict.reportLines.map fun line => p.red ++ line ++ p.reset ++ "\n") ++
    "For details see " ++ r.log

def toText (r : LogReport) (p : Palette) : String :=
  if r.isClean then p.okWord ++ " " ++ r.log ++ ": no error/warning messages"
  else
    p.failedWord ++ " " ++ r.log ++ " (" ++ toString r.verdict.errors ++ " error(s), " ++
      toString r.verdict.warnings ++ " warning(s))\n" ++ r.badLinesMessage p

def toJsonValue (r : LogReport) : Json :=
  .object ([
    ("log", .string r.log),
    ("clean", .bool r.isClean),
    ("offending", .array (r.verdict.offending.map .string)),
    ("errors", .number (.natural r.verdict.errors)),
    ("warnings", .number (.natural r.verdict.warnings))] ++
    r.verdict.readFailure.toList.map fun reason => ("read_failure", .string reason))

def toJson (r : LogReport) : String := r.toJsonValue.pretty

def check (r : LogReport) : Except Failure Unit :=
  if r.isClean then .ok () else .error (.badLogLines (r.badLinesMessage .plain))

end LogReport
end AnalysisHarness
