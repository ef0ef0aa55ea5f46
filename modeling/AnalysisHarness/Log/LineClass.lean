import AnalysisHarness.Pattern

/-!
# Classes of log lines

A line counts as an error or a warning by a word in capitals with a space on both sides, before
the first line break in it. Some warnings that a server writes when it starts are harmless. Lines
that an ignore pattern matches never count.
-/

namespace AnalysisHarness

namespace Pattern

/-- The pattern of the lines that hold a phrase before the first line break. -/
def holding (phrase : String) : Pattern where
  node := .seq (.look .textStart)
    (.seq (.rep (.one (.compl (.single 10))) 0 none) (Node.seqAll (phrase.toList.map Node.char)))

end Pattern

namespace Log

inductive LineClass where
  | error
  | warning
  /-- A warning that is harmless or that an ignore pattern matches. -/
  | warningIgnored
  | normal
  deriving DecidableEq, Repr

def errorPattern : Pattern := Pattern.holding " ERROR "

def warningPattern : Pattern := Pattern.holding " WARN "

/-- The warnings that a starting server writes and that mean nothing. -/
def benignPhrases : List String :=
  ["H2 database should", "Starting search", "Starting web"]

def isBenign (line : String) : Bool :=
  benignPhrases.any fun phrase => (Pattern.holding phrase).isMatch line

def isIgnored (ignore : Option Pattern) (line : String) : Bool :=
  ignore.any fun pattern => pattern.isMatch line

def classify (ignore : Option Pattern) (line : String) : LineClass :=
  if errorPattern.isMatch line then
    if isIgnored ignore line then .normal else .error
  else if warningPattern.isMatch line then
    if isIgnored ignore line || isBenign line then .warningIgnored else .warning
  else .normal

end Log
end AnalysisHarness
