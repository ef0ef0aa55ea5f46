import AnalysisHarness.CommandLine.Arguments
import AnalysisHarness.CommandLine.Execution
import AnalysisHarness.Shell.Run
import AnalysisHarness.Url.Unanswered
import Std.Time.Zoned

/-!
# The program

Reads what is on the disk, carries out the command that the arguments ask for, and puts back on the
disk what the command has changed. There is no network, so no server ever answers.
-/

namespace AnalysisHarness
namespace Program

def name : String := "sonar-harness"

def usage : String :=
  "usage: " ++ name ++ " [-v] [-q] COMMAND [ARGUMENT ...]\n\ncommands:\n" ++
    CommandLine.printLines (CommandLine.commandRules.map fun rule =>
      CommandLine.indented rule.word)

def stopText : CommandLine.Stop -> String
  | .version => name ++ " 0.1.0\n"
  | .help => usage
  | .misuse => usage

def variableNames : List String :=
  ["HOME", ServerLog.homeVariable, Config.urlVariable, "APPVEYOR", "NO_COLOR", "TERM"]

def readVariables : IO (Text.Keyed String) :=
  variableNames.foldlM
    (fun vars name => do
      match (← IO.getEnv name) with
      | some value => pure (Text.Keyed.put name value vars)
      | none => pure vars)
    []

/-- The marks to use: none unless people look at a terminal that shows them. -/
def palette (vars : Text.Keyed String) (onTerminal : Bool) : Palette :=
  let hides (variableName : String) : Bool := (vars.find? variableName).isSome
  let shows := (vars.find? "TERM").any (· ≠ "dumb")
  if onTerminal && shows && !hides "APPVEYOR" && !hides "NO_COLOR" then .ansi else .plain

def depthLimit : Nat := 64

def load : Nat -> Workspace -> String -> IO Workspace
  | 0, w, _ => pure w
  | depth + 1, w, path => do
      let place := System.mkFilePath [path]
      match (← place.symlinkMetadata.toBaseIO) with
      | .error _ => pure w
      | .ok data =>
          match data.type with
          | .dir => do
              let entries ← place.readDir
              let w := ((w.makeDirectoriesFrom w.current path).toOption).getD w
              entries.foldlM (fun w entry => load depth w (Path.join path entry.fileName)) w
          | _ =>
              match (← (IO.FS.readBinFile path).toBaseIO) with
              | .error _ => pure w
              | .ok bytes => pure (((w.writeWithin path bytes.toList).toOption).getD w)

def absolutePaths (arguments : List String) (vars : Text.Keyed String) : List String :=
  let settings := (vars.find? "HOME").toList.map fun home => Path.join home Config.userFile
  let logs := (vars.find? ServerLog.homeVariable).toList.map ServerLog.folder
  (arguments ++ settings ++ logs).filter Path.isAbsolute

def readDisk (arguments : List String) (vars : Text.Keyed String) : IO Workspace := do
  let w ← load depthLimit .empty "."
  (absolutePaths arguments vars).foldlM (load depthLimit) w

def fromRoot (w : Workspace) : Workspace := { w with current := 0 }

/-- The changes of files, by paths that lead to them from the current directory. -/
def changes (before after : Workspace) : List (String × Option Text.Bytes) :=
  let elsewhere := ((fromRoot before).changes (fromRoot after)).filter fun change =>
    !Text.startsWith "work/" change.1
  before.changes after ++ elsewhere.map fun change => ("/" ++ change.1, change.2)

def store (change : String × Option Text.Bytes) : IO Unit := do
  match change.2 with
  | none => IO.FS.removeFile change.1
  | some bytes =>
      let parent := Workspace.parentPath change.1
      if parent ≠ "" then IO.FS.createDirAll parent
      IO.FS.writeBinFile change.1 ⟨bytes.toArray⟩

def surroundings (vars : Text.Keyed String) (today : Date) : Surroundings where
  answer _ url := .error (Url.unanswered url)
  clock journal := journal.length
  today := today
  environment := vars.find?
  shell := Shell.call vars

def readToday : IO Date := do
  let date ← Std.Time.PlainDate.now
  pure ⟨date.year, date.month.val.toNat, date.day.val.toNat⟩

def carryOut (arguments : List String) (i : Invocation) : IO UInt32 := do
  let vars ← readVariables
  let before ← readDisk arguments vars
  let around := surroundings vars (← readToday)
  let output ← IO.getStdout
  let p := palette vars (← output.isTty)
  let c := i.command.execute around p (.start before)
  if !i.quiet then c.session.notes.forM fun note => IO.eprintln note.message
  (changes before c.session.files).forM store
  output.putStr c.printed
  IO.eprint (c.complaint p)
  pure (UInt32.ofNat c.exitCode)

end Program
end AnalysisHarness

open AnalysisHarness

def main (arguments : List String) : IO UInt32 := do
  match Invocation.ofArguments arguments with
  | .ok i => Program.carryOut arguments i
  | .error .misuse => do
      IO.eprint (Program.stopText .misuse)
      pure 2
  | .error stop => do
      IO.print (Program.stopText stop)
      pure (UInt32.ofNat stop.exitCode)
