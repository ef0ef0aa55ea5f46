import AnalysisHarness.Text.Blank
import AnalysisHarness.Workspace.Lookup

/-!
# Reading and changing files

Every operation either fails and leaves the disk as it is, or succeeds and gives the changed disk.
-/

namespace AnalysisHarness
namespace Workspace

open Text

def read (w : Workspace) (path : String) : Except IoError Bytes := do
  let id ← w.find path
  w.bytesOf id

def readText (w : Workspace) (path : String) : Except IoError String := do
  let bytes ← w.read path
  match decodeStrict bytes with
  | some text => pure text
  | none => .error .notUtf8

/-- The path without anything to stay at on its end: whether it asks for a directory. -/
def asksForDirectory (path : String) : Bool := path.toList.getLast? == some '/'

/-- The names in a directory with the nodes they lead to, in any order. -/
def entriesOf (w : Workspace) (id : NodeId) : List (String × NodeId) :=
  match w.node? id with
  | some (.directory _ entries) => entries.toList
  | _ => []

/-- The names in a directory with the nodes they lead to, in the order of the names. -/
def listing (w : Workspace) (id : NodeId) : Keyed NodeId :=
  Keyed.ofPairs (w.entriesOf id)

/-- Whether a directory can be reached from the root. `depth` bounds how far up to look. -/
def isAttached (w : Workspace) : Nat -> NodeId -> Bool
  | 0, _ => false
  | depth + 1, id =>
      match w.node? id with
      | some (.directory parent _) =>
          id == 0 || ((w.entriesOf parent).any fun e => e.2 == id) && w.isAttached depth parent
      | _ => false

def openFrom (w : Workspace) (start : NodeId) (path : String) :
    Except IoError (Workspace × NodeId) := do
  let place ← w.locateFrom start true path
  match place with
  | .found id =>
      if w.isDirectoryNode id then .error .isDirectory else pure (w, id)
  | .vacant directory name =>
      if asksForDirectory path then .error .isDirectory
      else if !w.isAttached w.nodes.length directory then .error .notFound
      else if IsFileName name then
        let (w, id) := w.addNode (.file [])
        pure (w.putEntry directory name id, id)
      else .error .invalidArgument

def openFile (w : Workspace) (path : String) : Except IoError (Workspace × NodeId) :=
  w.openFrom w.current path

def setBytes (w : Workspace) (id : NodeId) (bytes : Bytes) : Workspace :=
  match w.node? id with
  | some (.file _) => w.setNode id (.file bytes)
  | _ => w

def create (w : Workspace) (path : String) : Except IoError (Workspace × NodeId) := do
  let (w, id) ← w.openFile path
  pure (w.setBytes id [], id)

def write (w : Workspace) (path : String) (bytes : Bytes) : Except IoError Workspace := do
  let (w, id) ← w.openFile path
  pure (w.setBytes id bytes)

/-- Bytes with others written over them from a place on; a gap before it is filled with zeros. -/
def overwrite (old : Bytes) (offset : Nat) (new : Bytes) : Bytes :=
  old.take offset ++ List.replicate (offset - old.length) 0 ++ new ++
    old.drop (offset + new.length)

def writeAt (w : Workspace) (id : NodeId) (offset : Nat) (new : Bytes) : Workspace :=
  match w.node? id with
  | some (.file old) => w.setBytes id (overwrite old offset new)
  | _ => w

def appendTo (w : Workspace) (id : NodeId) (new : Bytes) : Workspace :=
  match w.node? id with
  | some (.file old) => w.setBytes id (old ++ new)
  | _ => w

def append (w : Workspace) (path : String) (bytes : Bytes) : Except IoError Workspace := do
  let (w, id) ← w.openFile path
  pure (w.appendTo id bytes)

def trimmedComponents (path : String) : List String :=
  dropEndWhile (fun name => name == "" || name == ".") (components path)

def parentFrom (w : Workspace) (start : NodeId) (path : String) :
    Except IoError (NodeId × String) :=
  let names := trimmedComponents path
  match names.getLast? with
  | none => .error .isDirectory
  | some name => do
      let place ← w.walk true linkLimit (if isAbsolute path then 0 else start) names.dropLast
      match place with
      | .found id =>
          if !w.isDirectoryNode id then .error .notDirectory
          else if nameLimit < name.utf8ByteSize then .error .nameTooLong
          else pure (id, name)
      | .vacant _ _ => .error .notFound

def removeFrom (w : Workspace) (start : NodeId) (path : String) : Except IoError Workspace := do
  let place ← w.locateFrom start false path
  match place with
  | .vacant _ _ => .error .notFound
  | .found id =>
      if w.isDirectoryNode id then .error .isDirectory
      else if asksForDirectory path then .error .notDirectory
      else do
        let (directory, name) ← w.parentFrom start path
        pure (w.dropEntry directory name)

def remove (w : Workspace) (path : String) : Except IoError Workspace :=
  w.removeFrom w.current path

def makeDirectoryFrom (w : Workspace) (start : NodeId) (path : String) :
    Except IoError Workspace := do
  let (directory, name) ← w.parentFrom start path
  match w.node? directory with
  | some (.directory _ entries) =>
      match entries.find? name with
      | some _ => .error .alreadyExists
      | none =>
          if name = ".." then .error .alreadyExists
          else
            let (w, id) := w.addNode (.directory directory .empty)
            pure (w.putEntry directory name id)
  | _ => .error .notDirectory

def makeDirectoriesFrom (w : Workspace) (start : NodeId) (path : String) :
    Except IoError Workspace :=
  let names := trimmedComponents path
  let leading := (List.range names.length).map fun n => names.take (n + 1)
  leading.foldlM
    (fun w names =>
      let part := String.intercalate "/" names
      let part := if isAbsolute path ∧ part = "" then "/" else part
      match w.locateFrom start true part with
      | .ok (.found id) => if w.isDirectoryNode id then .ok w else .error .alreadyExists
      | .ok (.vacant _ _) => w.makeDirectoryFrom start part
      | .error e => .error e)
    w

def parentPath (path : String) : String :=
  String.ofList (path.toList.reverse.dropWhile (· != '/')).reverse

/-- Writes a file and makes the directories it is in, as far as they are missing. -/
def writeWithin (w : Workspace) (path : String) (bytes : Bytes) : Except IoError Workspace := do
  let w ←
    if parentPath path = "" then pure w else w.makeDirectoriesFrom w.current (parentPath path)
  w.write path bytes

def makeLink (w : Workspace) (path target : String) : Except IoError Workspace := do
  let (directory, name) ← w.parentFrom w.current path
  let (w, id) := w.addNode (.link target)
  pure (w.putEntry directory name id)

/--
The regular files in a directory and the directories below it, with their paths. Links are not
followed. `depth` bounds how far down to look.
-/
def filesBelow (w : Workspace) : Nat -> String -> NodeId -> List (String × Bytes)
  | 0, _, _ => []
  | depth + 1, before, id =>
      (w.listing id).flatMap fun (name, next) =>
        match w.node? next with
        | some (.file bytes) => [(before ++ name, bytes)]
        | some (.directory _ _) => w.filesBelow depth (before ++ name ++ "/") next
        | _ => []

def files (w : Workspace) : List (String × Bytes) :=
  w.filesBelow (w.nodes.length + 1) "" w.current

/-- The files that are new or hold something else than before, and nothing for those gone. -/
def changes (before after : Workspace) : List (String × Option Bytes) :=
  let old := before.files
  let new := after.files
  let written := new.filter fun f => !old.contains f
  let gone := old.filter fun f => !(new.any fun g => g.1 == f.1)
  written.map (fun f => (f.1, some f.2)) ++ gone.map fun f => (f.1, none)

end Workspace
end AnalysisHarness
