import AnalysisHarness.Decimal.Literal

/-!
# Signals

Signals by their names and numbers, and what they do to a shell that has not said otherwise.
-/

namespace AnalysisHarness
namespace Shell
namespace Signal

/-- The names of the signals in the order of their numbers; zero is the end of the shell. -/
def names : List String :=
  ["EXIT", "HUP", "INT", "QUIT", "ILL", "TRAP", "ABRT", "BUS", "FPE", "KILL", "USR1", "SEGV",
    "USR2", "PIPE", "ALRM", "TERM", "STKFLT", "CHLD", "CONT", "STOP", "TSTP", "TTIN", "TTOU",
    "URG", "XCPU", "XFSZ", "VTALRM", "PROF", "WINCH", "IO", "PWR", "SYS"]

def harmless : List String :=
  ["EXIT", "CHLD", "CONT", "STOP", "TSTP", "TTIN", "TTOU", "URG", "WINCH"]

def ofWord? (word : String) : Option String :=
  let cs := word.toList
  if !cs.isEmpty ∧ cs.all Char.isDigit then names[Decimal.digitsValue cs]?
  else names.find? fun name => name.toList == cs.map Char.toUpper

end Signal
end Shell
end AnalysisHarness
