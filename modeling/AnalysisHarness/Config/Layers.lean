import AnalysisHarness.Config.Settings
import AnalysisHarness.Path
import AnalysisHarness.Workspace.Files

/-!
# Layers of settings

Settings come from three files: one of the user, one of the repository and one of the working
copy. A later file overrides an earlier one entry by entry. A variable can replace the address of
the server in the end.
-/

namespace AnalysisHarness
namespace Config

open Toml

mutual

/--
A value with another one laid over it: of two tables the entries are merged, otherwise the upper
value stays.
-/
def overlay (base : Value) : Value -> Value
  | .table upper =>
      match base with
      | .table entries => .table (overlayEntries entries upper)
      | _ => .table upper
  | v => v

def overlayEntries (entries : List (String × Value)) :
    List (String × Value) -> List (String × Value)
  | [] => entries
  | (key, v) :: upper =>
      let v :=
        match Text.Keyed.find? entries key with
        | some base => overlay base v
        | none => v
      overlayEntries (Text.Keyed.put key v entries) upper

end

def repositoryFile : String := "sonar-harness.toml"

def localFile : String := ".sonar-harness/local.toml"

def userFile : String := ".config/sonar-harness/config.toml"

def urlVariable : String := "SONAR_HARNESS_URL"

def parseFailure (path reason : String) : Failure :=
  .configParse (path ++ ": " ++ reason)

def readDocument [Wording] (files : Workspace) (path : String) : Except Failure Value := do
  let text ← Failure.ofIo (files.readText path)
  match Value.read text with
  | .ok v => pure v
  | .error e => .error (parseFailure path e.message)

def addLayer [Wording] (files : Workspace) (merged : Value) (path : String) :
    Except Failure Value :=
  if files.exists? path then do
    let layer ← readDocument files path
    pure (overlay merged layer)
  else .ok merged

/-- The files of the layers, lowest first. -/
def layerPaths (root : String) (home : Option String) : List String :=
  (home.map fun home => Path.join home userFile).toList ++
    [Path.join root repositoryFile, Path.join root localFile]

def ofLayers [Wording] (files : Workspace) (paths : List String) : Except Failure Config := do
  let merged ← paths.foldlM (addLayer files) (.table [])
  match ofValue merged with
  | .ok c => pure c
  | .error e => .error (.configParse e.message)

/-- The settings with the address of the server that a variable gives, unless that is blank. -/
def withUrl (c : Config) (value : Option String) : Config :=
  match value with
  | none => c
  | some url =>
      if Text.isBlankText url then c
      else { c with server := { c.server with url := Text.trim url } }

def load [Wording] (files : Workspace) (environment : String -> Option String) (root : String) :
    Except Failure Config := do
  let c ← ofLayers files (layerPaths root (environment "HOME"))
  let c := c.withUrl (environment urlVariable)
  c.validate
  pure c

end Config
end AnalysisHarness
