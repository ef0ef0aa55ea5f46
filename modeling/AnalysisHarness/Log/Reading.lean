import AnalysisHarness.Log.Verdict
import AnalysisHarness.Failure
import AnalysisHarness.Text.Segments
import AnalysisHarness.Text.Utf8
import AnalysisHarness.Workspace.Files

/-!
# Reading logs

A log is read leniently: bytes that are no text do not keep the lines around them from being read.
Line ends of either kind are accepted.
-/

namespace AnalysisHarness
namespace Log

open Text

/-- A line without its line feed and one carriage return before it. -/
def chompLine (line : List Char) : List Char :=
  match line.reverse with
  | '\n' :: '\r' :: rest => rest.reverse
  | '\n' :: rest => rest.reverse
  | _ => line

/-- The lines of a text; a line break at the end does not begin a further line. -/
def linesOf (s : String) : List String :=
  (pieces '\n' s.toList).map fun line => String.ofList (chompLine line)

def linesOfBytes (bytes : Bytes) : List String := linesOf (decodeLenient bytes)

def readLines (files : Workspace) (path : String) : Except IoError (List String) := do
  let bytes ← files.read path
  pure (linesOfBytes bytes)

/-- The verdict on a log file. A file that cannot be read gives a verdict that says so. -/
def scan (files : Workspace) (path : String) (ignore : Option Pattern) : Verdict :=
  match readLines files path with
  | .ok lines => .ofLines ignore lines
  | .error e => .unreadable (path ++ ": " ++ e.message)

/-- Whether some line of a file matches a pattern; the pattern is read before the file. -/
def containsLine (files : Workspace) (path pattern : String) : Except Failure Bool := do
  let pattern ← Failure.ofPattern (Pattern.compile pattern)
  let lines ← Failure.ofIo (readLines files path)
  pure (lines.any pattern.isMatch)

end Log
end AnalysisHarness
