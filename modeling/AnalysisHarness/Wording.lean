import AnalysisHarness.Json.Value
import AnalysisHarness.Pattern
import AnalysisHarness.Toml.Fields

/-!
# Words of libraries

Patterns, answers and documents are read by libraries, which say in words of their own what is wrong
with a text that they refuse. These words are a parameter: an error keeps the text that was refused,
and nothing else is known of the words than that they depend on this text.
-/

namespace AnalysisHarness

/-- What libraries say of texts that they refuse. -/
class Wording where
  pattern : String -> String
  json : String -> String
  document : String -> String
  /-- For a document that is not a scenario. -/
  scenario : String -> String
  /-- For settings, after all layers have been merged. -/
  settings : Toml.Value -> String

/-- The words for a group that is left open, an object that is, and a limit that is no number. -/
abbrev Wording.sample : Wording where
  pattern text := "regex parse error:\n    " ++ text ++ "\n     ^\nerror: unclosed group"
  json _ := "EOF while parsing an object at line 1 column 1"
  document _ := "TOML parse error"
  scenario _ := "TOML parse error"
  settings _ := "invalid value"

section

variable [Wording]

def Pattern.ReadError.message (e : Pattern.ReadError) : String :=
  Wording.pattern e.text

def Json.ReadError.message (e : Json.ReadError) : String :=
  Wording.json e.text

def Toml.TomlError.message (e : Toml.TomlError) : String :=
  Wording.document e.text

def Toml.ShapeError.message (e : Toml.ShapeError) : String :=
  Wording.settings e.value

end

end AnalysisHarness
