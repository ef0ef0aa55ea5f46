import AnalysisHarness.Pattern.Matching
import AnalysisHarness.Pattern.Reader

/-!
# Patterns of users

A pattern given by a user is tried at the beginning of a line only. Ignore text holds one such
pattern on each line, any of which may match.
-/

namespace AnalysisHarness

structure Pattern where
  node : Pattern.Node
  deriving DecidableEq, Repr

namespace Pattern

/-- A text that was read and is not a pattern, with what is wrong with it. -/
structure ReadError where
  fault : Fault
  text : String
  deriving DecidableEq, Repr

/-- What is read for a pattern that is to be tried at the beginning of a line. -/
def anchored (text : String) : String := "^(?:" ++ text ++ ")"

def compile (text : String) : Except ReadError Pattern :=
  ((Node.read (anchored text).toList).mapError fun fault => .mk fault (anchored text)).map
    Pattern.mk

def isMatch (p : Pattern) (line : String) : Bool :=
  p.node.occursIn line.toList

/-- The alternatives of an ignore text: its lines without carriage returns at their ends. -/
def alternatives (text : String) : List (List Char) :=
  ((Text.segments '\n' text.toList).map (Text.dropEndWhile (· == '\r'))).filter
    fun line => !line.isEmpty

/-- The pattern that an ignore text stands for, if it holds any. -/
def ofIgnoreText (text : String) : Except ReadError (Option Pattern) :=
  match alternatives text with
  | [] => .ok none
  | lines => (compile (String.ofList (Text.joinSegments ['|'] lines))).map some

end Pattern
end AnalysisHarness
