/-!
# Palettes

The marks around highlighted words, for terminals that show colours and for those that do not.
There is none for warnings, since no report marks anything as one.
-/

namespace AnalysisHarness

/-- Marks that switch colours and brightness. -/
structure Palette where
  red : String
  green : String
  reset : String
  bright : String
  resetAll : String
  deriving DecidableEq, Repr

namespace Palette

def plain : Palette := ⟨"", "", "", "", ""⟩

def ansi : Palette := ⟨"\x1b[31m", "\x1b[32m", "\x1b[39m", "\x1b[1m", "\x1b[0m"⟩

def okWord (p : Palette) : String := p.green ++ "OK" ++ p.reset

def failedWord (p : Palette) : String := p.red ++ "FAILED" ++ p.reset

def emphasize (p : Palette) (text : String) : String := p.bright ++ text ++ p.resetAll

end Palette
end AnalysisHarness
