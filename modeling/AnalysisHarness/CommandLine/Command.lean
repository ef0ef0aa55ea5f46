/-!
# Commands

What can be asked for on the command line.
-/

namespace AnalysisHarness

inductive ReportFormat where
  | text
  | json
  deriving DecidableEq, Repr

inductive Command where
  | checkLog (log : String) (ignoreFile : Option String) (format : ReportFormat)
  | serverLog (home ignoreFile : Option String) (format : ReportFormat)
  | wait (log root : String)
  | measures (project : String) (entries : List String) (testValues : Option String)
      (root : String)
  | run (scenario : String) (home : Option String) (root : String)
  | cleanupLogs (home : Option String)
  | dumpLogs (home : Option String)
  deriving DecidableEq, Repr

/-- A command, and whether it is to keep its remarks to itself. -/
structure Invocation where
  quiet : Bool
  command : Command
  deriving DecidableEq, Repr

end AnalysisHarness
