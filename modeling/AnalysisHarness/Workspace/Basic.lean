import AnalysisHarness.Text.Utf8
import AnalysisHarness.Workspace.Entries

/-!
# The disk

Files, directories and symbolic links are nodes with a number each. A directory names its entries;
a node that no directory names any more stays where it is, so that whoever holds it open can go on
reading and writing it.
-/

namespace AnalysisHarness

open Text

inductive IoError where
  | notFound
  | alreadyExists
  | notDirectory
  | isDirectory
  | invalidArgument
  | nameTooLong
  | directoryNotEmpty
  | tooManyLinks
  | nulInPath
  | nulInCommand
  | notUtf8
  deriving DecidableEq, Repr

def IoError.message : IoError -> String
  | notFound => "No such file or directory (os error 2)"
  | alreadyExists => "File exists (os error 17)"
  | notDirectory => "Not a directory (os error 20)"
  | isDirectory => "Is a directory (os error 21)"
  | invalidArgument => "Invalid argument (os error 22)"
  | nameTooLong => "File name too long (os error 36)"
  | directoryNotEmpty => "Directory not empty (os error 39)"
  | tooManyLinks => "Too many levels of symbolic links (os error 40)"
  | nulInPath => "file name contained an unexpected NUL byte"
  | nulInCommand => "nul byte found in provided data"
  | notUtf8 => "stream did not contain valid UTF-8"

instance decidableEqExcept {ε α : Type} [DecidableEq ε] [DecidableEq α] :
    DecidableEq (Except ε α)
  | .error e, .error f => decidable_of_iff (e = f) ⟨congrArg Except.error, Except.error.inj⟩
  | .ok a, .ok b => decidable_of_iff (a = b) ⟨congrArg Except.ok, Except.ok.inj⟩
  | .error _, .ok _ => .isFalse nofun
  | .ok _, .error _ => .isFalse nofun

inductive FileNode where
  | file (bytes : Bytes)
  | directory (parent : NodeId) (entries : Workspace.Entries)
  | link (target : String)
  /-- A device that takes everything and holds nothing. -/
  | sink
  deriving DecidableEq, Repr, Inhabited

/-- The disk, and the directory that relative paths start from. -/
structure Workspace where
  nodes : List FileNode
  current : NodeId
  deriving DecidableEq, Repr, Inhabited

namespace Workspace

/-- A disk without files: the current directory and the device for unwanted output. -/
def empty : Workspace where
  nodes := [.directory 0 (.mk [("dev", 1), ("work", 3)]), .directory 0 (.mk [("null", 2)]), .sink,
    .directory 0 .empty]
  current := 3

def node? (w : Workspace) (id : NodeId) : Option FileNode := w.nodes[id]?

def setNode (w : Workspace) (id : NodeId) (node : FileNode) : Workspace :=
  { w with nodes := w.nodes.set id node }

def addNode (w : Workspace) (node : FileNode) : Workspace × NodeId :=
  ({ w with nodes := w.nodes ++ [node] }, w.nodes.length)

def isDirectoryNode (w : Workspace) (id : NodeId) : Bool :=
  match w.node? id with
  | some (.directory _ _) => true
  | _ => false

def bytesOf (w : Workspace) (id : NodeId) : Except IoError Bytes :=
  match w.node? id with
  | some (.file bytes) => .ok bytes
  | some (.directory _ _) => .error .isDirectory
  | _ => .ok []

def putEntry (w : Workspace) (directory : NodeId) (name : String) (id : NodeId) : Workspace :=
  match w.node? directory with
  | some (.directory parent entries) =>
      w.setNode directory (.directory parent (entries.put name id))
  | _ => w

def dropEntry (w : Workspace) (directory : NodeId) (name : String) : Workspace :=
  match w.node? directory with
  | some (.directory parent entries) =>
      w.setNode directory (.directory parent (entries.keep (· != name)))
  | _ => w

@[simp] theorem node?_setNode_self {w : Workspace} {id : NodeId} {node : FileNode}
    (h : id < w.nodes.length) : (w.setNode id node).node? id = some node := by
  simp [node?, setNode, h]

@[simp] theorem node?_setNode_of_ne {w : Workspace} {id other : NodeId} {node : FileNode}
    (h : id ≠ other) : (w.setNode id node).node? other = w.node? other := by
  simp [node?, setNode, List.getElem?_set_ne h]

end Workspace
end AnalysisHarness
