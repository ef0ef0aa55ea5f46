import AnalysisHarness.ServerLog.Daily
import AnalysisHarness.Text.Utf8
import AnalysisHarness.Workspace.Files

/-!
# The folder of logs

The logs in the folder of a server are its regular files with the extension for logs. They can be
removed or shown all at once.
-/

namespace AnalysisHarness
namespace ServerLog

open Text

def isRegular (files : Workspace) (id : NodeId) : Bool :=
  match files.node? id with
  | some (.file _) => true
  | _ => false

/-- The names of the logs in the folder of a server, in order. -/
def logNames (files : Workspace) (home : String) : List String :=
  match files.find (folder home) with
  | .error _ => []
  | .ok id =>
      (Keyed.ofPairs ((files.entriesOf id).filter fun e =>
        isRegular files e.2 && Path.extension? e.1 == some "log")).keys

/-- Removes files one after another; how many there are, and the disk without them. -/
def removeAll (files : Workspace) : List String -> Except IoError Nat × Workspace
  | [] => (.ok 0, files)
  | path :: paths =>
      match files.remove path with
      | .error e => (.error e, files)
      | .ok files =>
          match removeAll files paths with
          | (.ok n, files) => (.ok (n + 1), files)
          | (.error e, files) => (.error e, files)

def logPaths (files : Workspace) (home : String) : List String :=
  (logNames files home).map (Path.join (folder home))

def cleanup (files : Workspace) (home : String) : Except IoError Nat × Workspace :=
  removeAll files (logPaths files home)

def headed (files : Workspace) (home name : String) : Except IoError String := do
  let bytes ← files.read (Path.join (folder home) name)
  pure ("\n--- " ++ name ++ " ---\n" ++ decodeLenient bytes)

def dump (files : Workspace) (home : String) : Except IoError String := do
  let sections ← (logNames files home).mapM (headed files home)
  pure (String.join sections)

end ServerLog
end AnalysisHarness
