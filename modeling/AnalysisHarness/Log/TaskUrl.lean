import AnalysisHarness.Text.Blank
import AnalysisHarness.Text.Search

/-!
# The background task of an analysis

An analysis announces in its log where the progress of its background task can be asked for. If it
is tried more than once it does so again, and the last announcement counts.
-/

namespace AnalysisHarness
namespace Log

open Text

/-- The announcements before the address, in the order they are looked for in a line. -/
def taskMarkers : List String := [
  "INFO: More about the report processing at",
  "INFO  - More about the report processing at"]

/-- What follows the first occurrence of a marker in a line, trimmed. -/
def afterMarker? (line marker : String) : Option String :=
  (splitFirst marker.toList line.toList).map fun (_, tail) => String.ofList (trimChars tail)

def taskUrlFrom (url : String) (lines : List String) : String :=
  lines.foldl
    (fun url line => taskMarkers.foldl (fun url marker => (afterMarker? line marker).getD url) url)
    url

/-- The address that the last announcement in the lines gives, or nothing. -/
def taskUrl (lines : List String) : String := taskUrlFrom "" lines

end Log
end AnalysisHarness
