import AnalysisHarness.Text.Segments
import AnalysisHarness.Workspace.Basic

/-!
# Finding a path

A path is followed component by component. A symbolic link in the middle of it is always followed,
one at its end if asked for; following more than forty of them in all is refused, so that links in
a circle come to an end.
-/

namespace AnalysisHarness
namespace Workspace

open Text

/-- Where a path leads: to a node, or to a name that is free in a directory. -/
inductive Place where
  | found (id : NodeId)
  | vacant (directory : NodeId) (name : String)
  deriving DecidableEq, Repr

/-- The components of a path; an empty or a single-dot component stays where it is. -/
def components (path : String) : List String :=
  (segments '/' path.toList).map String.ofList

def isAbsolute (path : String) : Bool := path.toList.head? == some '/'

/-- How many bytes a path may have. -/
def pathLimit : Nat := 4095

/-- How many links may be followed for one path. -/
def linkLimit : Nat := 40

/--
Follows components from a node on. `expand` goes on after a link: it is given the node to go on
from and the components that are left.
-/
def walkWith (w : Workspace) (follow : Bool)
    (expand : NodeId -> List String -> Except IoError Place) :
    NodeId -> List String -> Except IoError Place
  | id, [] => .ok (.found id)
  | id, name :: rest =>
      match w.node? id with
      | some (.directory parent entries) =>
          if name = "" ∨ name = "." then walkWith w follow expand id rest
          else if name = ".." then walkWith w follow expand parent rest
          else if nameLimit < name.utf8ByteSize then .error .nameTooLong
          else
            match entries.find? name with
            | none => if rest.isEmpty then .ok (.vacant id name) else .error .notFound
            | some next =>
                match w.node? next with
                | some (.link target) =>
                    if rest.isEmpty && !follow then .ok (.found next)
                    else expand (if isAbsolute target then 0 else id) (components target ++ rest)
                | _ => walkWith w follow expand next rest
      | _ => .error .notDirectory

def walk (w : Workspace) (follow : Bool) : Nat -> NodeId -> List String -> Except IoError Place
  | 0 => walkWith w follow fun _ _ => .error .tooManyLinks
  | links + 1 => walkWith w follow (walk w follow links)

def locateFrom (w : Workspace) (start : NodeId) (follow : Bool) (path : String) :
    Except IoError Place :=
  if path.toList.contains '\x00' then .error .nulInPath
  else if path = "" then .error .notFound
  else if pathLimit < path.utf8ByteSize then .error .nameTooLong
  else w.walk follow linkLimit (if isAbsolute path then 0 else start) (components path)

def locate (w : Workspace) (path : String) : Except IoError Place :=
  w.locateFrom w.current true path

def find (w : Workspace) (path : String) : Except IoError NodeId :=
  match w.locate path with
  | .ok (.found id) => .ok id
  | .ok (.vacant _ _) => .error .notFound
  | .error e => .error e

def exists? (w : Workspace) (path : String) : Bool :=
  match w.find path with
  | .ok _ => true
  | .error _ => false

def isDirectory (w : Workspace) (path : String) : Bool :=
  match w.find path with
  | .ok id => w.isDirectoryNode id
  | .error _ => false

end Workspace
end AnalysisHarness
