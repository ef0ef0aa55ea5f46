import AnalysisHarness.Shell.Program
import AnalysisHarness.Workspace.Files

/-!
# The state of the shell

The shell works on the disk from a directory of its own. Its descriptors lead to open files;
descriptors that lead to the same open file share the place at which they read and write.
-/

namespace AnalysisHarness
namespace Shell

open Text

structure OpenFile where
  node : NodeId
  offset : Nat
  appends : Bool
  deriving Repr

/-- How the shell goes on after a command. -/
inductive Flow where
  | next
  | exited
  | killed
  | returned
  /-- A loop ends, and as many loops around it. -/
  | broken (outer : Nat)
  /-- A loop goes on from its beginning, after as many loops inside it have ended. -/
  | continued (outer : Nat)
  deriving DecidableEq, Repr

structure State where
  files : Workspace
  opened : List OpenFile
  descriptors : List (Nat × Nat)
  directory : NodeId
  bindings : Keyed String
  exported : List String
  parameters : List String
  bodies : List (String × Program)
  /-- Whether a failing command ends the shell. -/
  isStrict : Bool
  isDeciding : Bool
  traps : Keyed String
  due : List String
  /-- The variables that mean something else once the body ends; nothing outside of bodies. -/
  locals? : Option (List String)
  loops : Nat
  status : Nat
  flow : Flow
  deriving Repr

namespace State

def handle? (s : State) (descriptor : Nat) : Option Nat :=
  (s.descriptors.find? fun d => d.1 == descriptor).map Prod.snd

def redirect (s : State) (descriptor handle : Nat) : State :=
  { s with descriptors :=
    (descriptor, handle) :: s.descriptors.filter fun d => d.1 != descriptor }

def addOpen (s : State) (f : OpenFile) : State × Nat :=
  ({ s with opened := s.opened ++ [f] }, s.opened.length)

/-- The state after writing to a descriptor; nothing happens if that leads nowhere. -/
def emit (s : State) (descriptor : Nat) (bytes : Bytes) : State :=
  match s.handle? descriptor with
  | none => s
  | some handle =>
      match s.opened[handle]? with
      | none => s
      | some f =>
          if f.appends then { s with files := s.files.appendTo f.node bytes }
          else
            { s with
              files := s.files.writeAt f.node f.offset bytes
              opened := s.opened.set handle { f with offset := f.offset + bytes.length } }

def say (s : State) (descriptor : Nat) (text : String) : State :=
  s.emit descriptor (encode text)

/-- Everything that is left to read from a descriptor, and the state after reading it. -/
def drain (s : State) (descriptor : Nat) : Bytes × State :=
  match s.handle? descriptor with
  | none => ([], s)
  | some handle =>
      match s.opened[handle]? with
      | none => ([], s)
      | some f =>
          let bytes := (s.files.bytesOf f.node).toOption.getD []
          (bytes.drop f.offset,
            { s with opened :=
              s.opened.set handle { f with offset := Nat.max f.offset bytes.length } })

def withStatus (s : State) (status : Nat) : State := { s with status := status }

def complain (s : State) (line : Nat) (reason : String) : State :=
  s.say 2 ("sh: " ++ toString line ++ ": " ++ reason ++ "\n")

def fail (s : State) (reason : String) : State := (s.say 2 (reason ++ "\n")).withStatus 1

def namesTo (files : Workspace) : Nat -> NodeId -> List String -> List String
  | 0, _, names => names
  | fuel + 1, id, names =>
      match files.node? id with
      | some (.directory parent _) =>
          if parent = id then names
          else
            match List.find? (fun e => e.2 == id) (files.entriesOf parent) with
            | some (name, _) => namesTo files fuel parent (name :: names)
            | none => names
      | _ => names

def currentPath (s : State) : String :=
  "/" ++ String.intercalate "/" (namesTo s.files (s.files.nodes.length + 1) s.directory [])

/-- The disk as it is seen from the directory of the shell. -/
def view (s : State) : Workspace := { s.files with current := s.directory }

/-- The state with the disk changed as it was seen from the directory of the shell. -/
def withFiles (s : State) (files : Workspace) : State :=
  { s with files := { files with current := s.files.current } }

def value (s : State) (name : String) : String := (s.bindings.find? name).getD ""

def assign (s : State) (name text : String) : State :=
  { s with bindings := Keyed.put name text s.bindings }

def exporting (s : State) (names : List String) : State :=
  { s with exported := names.filter (!s.exported.contains ·) ++ s.exported }

def environment (s : State) : Keyed String := s.bindings.filter fun v => s.exported.contains v.1

def abort (s : State) (line : Nat) (reason : String) : State :=
  { s.complain line reason with status := 2, flow := .exited }

def readLine? (s : State) (descriptor : Nat) : Option (Bytes × State) := do
  let handle ← s.handle? descriptor
  let f ← s.opened[handle]?
  let left := ((s.files.bytesOf f.node).toOption.getD []).drop f.offset
  match pieces 10 left with
  | [] => none
  | line :: _ =>
      some (line,
        { s with opened := s.opened.set handle { f with offset := f.offset + line.length } })

end State

def reasonOf : IoError -> String
  | .notFound => "No such file or directory"
  | .alreadyExists => "File exists"
  | .notDirectory => "Not a directory"
  | .isDirectory => "Is a directory"
  | .invalidArgument => "Invalid argument"
  | .nameTooLong => "File name too long"
  | .directoryNotEmpty => "Directory not empty"
  | .tooManyLinks => "Too many levels of symbolic links"
  | .nulInPath => "Invalid argument"
  | .nulInCommand => "Invalid argument"
  | .notUtf8 => "Invalid or incomplete multibyte or wide character"

end Shell
end AnalysisHarness
