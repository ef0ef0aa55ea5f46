import AnalysisHarness.Date
import AnalysisHarness.Path

/-!
# The daily logs of a server

A server begins a new log each day, in a folder of its home directory.
-/

namespace AnalysisHarness
namespace ServerLog

def folder (home : String) : String := Path.join home "logs"

def dailyName (date : Date) : String := "sonar-" ++ date.stamp ++ ".log"

def dailyFile (home : String) (date : Date) : String := Path.join (folder home) (dailyName date)

def homeVariable : String := "SONARHOME"

def homeOf (value : Option String) : Option String := value.filter (· ≠ "")

end ServerLog
end AnalysisHarness
