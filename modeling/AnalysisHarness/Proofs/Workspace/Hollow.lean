import AnalysisHarness.Proofs.Workspace.Append

/-!
# Disks with nothing in their files

Where paths lead is decided by directories and links alone. So emptying every file of a disk
changes nothing about that, and an append to the emptied disk is the append to the disk itself,
emptied.
-/

namespace AnalysisHarness

open Text

/-- What a node is, whatever a file holds. -/
def FileNode.hollow : FileNode -> FileNode
  | file _ => file []
  | directory parent entries => directory parent entries
  | link target => link target
  | sink => sink

namespace Workspace

def hollow (w : Workspace) : Workspace := { w with nodes := w.nodes.map FileNode.hollow }

@[simp] theorem current_hollow (w : Workspace) : w.hollow.current = w.current := rfl

@[simp] theorem length_nodes_hollow (w : Workspace) :
    w.hollow.nodes.length = w.nodes.length :=
  List.length_map FileNode.hollow

theorem node?_hollow (w : Workspace) (id : NodeId) :
    w.hollow.node? id = (w.node? id).map FileNode.hollow :=
  List.getElem?_map

/-! ## Paths -/

theorem walkWith_hollow (w : Workspace) (follow : Bool)
    (expand : NodeId -> List String -> Except IoError Place) (id : NodeId) (names : List String) :
    w.hollow.walkWith follow expand id names = w.walkWith follow expand id names := by
  induction names generalizing id with
  | nil => rfl
  | cons name rest ih =>
      simp only [walkWith, node?_hollow, ih]
      cases w.node? id with
      | none => rfl
      | some node =>
          cases node with
          | file bytes => rfl
          | link target => rfl
          | sink => rfl
          | directory parent entries =>
              simp only [Option.map_some, FileNode.hollow]
              cases entries.find? name with
              | none => rfl
              | some next =>
                  cases hnext : w.node? next with
                  | none => simp only [hnext, Option.map_none]
                  | some found =>
                      cases found <;> simp only [hnext, Option.map_some, FileNode.hollow]

theorem walk_hollow (w : Workspace) (follow : Bool) (links : Nat) :
    w.hollow.walk follow links = w.walk follow links := by
  induction links with
  | zero =>
      funext id names
      exact walkWith_hollow w follow _ id names
  | succ links ih =>
      funext id names
      rw [walk, walk, ih]
      exact walkWith_hollow w follow _ id names

theorem locateFrom_hollow (w : Workspace) (start : NodeId) (follow : Bool) (path : String) :
    w.hollow.locateFrom start follow path = w.locateFrom start follow path := by
  rw [locateFrom, locateFrom, walk_hollow]

theorem find_hollow (w : Workspace) (path : String) : w.hollow.find path = w.find path := by
  rw [find, find, locate, locate, current_hollow, locateFrom_hollow]

/-! ## Appends -/

theorem isDirectoryNode_hollow (w : Workspace) (id : NodeId) :
    w.hollow.isDirectoryNode id = w.isDirectoryNode id := by
  rw [isDirectoryNode, isDirectoryNode, node?_hollow]
  cases w.node? id with
  | none => rfl
  | some node => cases node <;> rfl

theorem isFileNode_hollow (w : Workspace) (id : NodeId) :
    w.hollow.isFileNode id = w.isFileNode id := by
  rw [isFileNode, isFileNode, node?_hollow]
  cases w.node? id with
  | none => rfl
  | some node => cases node <;> rfl

theorem entriesOf_hollow (w : Workspace) (id : NodeId) :
    w.hollow.entriesOf id = w.entriesOf id := by
  rw [entriesOf, entriesOf, node?_hollow]
  cases w.node? id with
  | none => rfl
  | some node => cases node <;> rfl

theorem isAttached_hollow (w : Workspace) (depth : Nat) (id : NodeId) :
    w.hollow.isAttached depth id = w.isAttached depth id := by
  induction depth generalizing id with
  | zero => rfl
  | succ depth ih =>
      rw [isAttached, isAttached, node?_hollow]
      cases w.node? id with
      | none => rfl
      | some node =>
          cases node with
          | file bytes => rfl
          | link target => rfl
          | sink => rfl
          | directory parent entries =>
              simp only [Option.map_some, FileNode.hollow, entriesOf_hollow, ih]

theorem hollow_setNode (w : Workspace) (id : NodeId) (node : FileNode) :
    (w.setNode id node).hollow = w.hollow.setNode id node.hollow := by
  simp only [hollow, setNode, List.map_set]

theorem hollow_addNode (w : Workspace) (node : FileNode) :
    (w.addNode node).1.hollow = (w.hollow.addNode node.hollow).1 := by
  simp only [hollow, addNode, List.map_append, List.map_singleton]

theorem hollow_putEntry (w : Workspace) (directory : NodeId) (name : String) (id : NodeId) :
    (w.putEntry directory name id).hollow = w.hollow.putEntry directory name id := by
  rw [putEntry, putEntry, node?_hollow]
  cases w.node? directory with
  | none => rfl
  | some node =>
      cases node with
      | directory parent entries => exact hollow_setNode w directory _
      | file bytes => rfl
      | link target => rfl
      | sink => rfl

theorem openFile_hollow (w : Workspace) (path : String) :
    w.hollow.openFile path = (w.openFile path).map fun opened => (opened.1.hollow, opened.2) := by
  rw [openFile, openFile, openFrom, openFrom, current_hollow, locateFrom_hollow]
  cases w.locateFrom w.current true path with
  | error e => rfl
  | ok place =>
      cases place with
      | found id =>
          change (if w.hollow.isDirectoryNode id then _ else _) =
            Except.map _ (if w.isDirectoryNode id then _ else _)
          rw [isDirectoryNode_hollow]
          split <;> rfl
      | vacant directory name =>
          change (if asksForDirectory path then _ else
              if !w.hollow.isAttached w.hollow.nodes.length directory then _ else
                if IsFileName name then _ else _) =
            Except.map _ (if asksForDirectory path then _ else
              if !w.isAttached w.nodes.length directory then _ else
                if IsFileName name then _ else _)
          rw [length_nodes_hollow, isAttached_hollow]
          split
          · rfl
          split
          · rfl
          split
          · have hput := hollow_putEntry (w.addNode (.file [])).1 directory name w.nodes.length
            rw [hollow_addNode] at hput
            change Except.ok (_, w.hollow.nodes.length) = Except.ok (_, w.nodes.length)
            rw [length_nodes_hollow]
            exact congrArg (fun after => Except.ok (after, w.nodes.length)) hput.symm
          · rfl

theorem hollow_appendTo (w : Workspace) (id : NodeId) (new : Bytes) :
    (w.appendTo id new).hollow = w.hollow.appendTo id [] := by
  rw [appendTo, appendTo, node?_hollow]
  cases hnode : w.node? id with
  | none => rfl
  | some node =>
      cases node with
      | directory parent entries => rfl
      | link target => rfl
      | sink => rfl
      | file old =>
          change (w.setBytes id (old ++ new)).hollow = w.hollow.setBytes id []
          rw [setBytes, setBytes, node?_hollow, hnode]
          exact hollow_setNode w id _

theorem hollow_appended (w : Workspace) (path : String) (new : Bytes) :
    (w.appended path new).hollow = w.hollow.appended path [] := by
  rw [appended, appended, append, append, openFile_hollow]
  cases w.openFile path with
  | error e => rfl
  | ok opened => exact hollow_appendTo opened.1 opened.2 new

/-! ## Disks of the same shape -/

theorem find_congr {w v : Workspace} (h : w.hollow = v.hollow) (path : String) :
    w.find path = v.find path := by
  rw [← find_hollow w, h, find_hollow]

theorem isFileNode_congr {w v : Workspace} (h : w.hollow = v.hollow) (id : NodeId) :
    w.isFileNode id = v.isFileNode id := by
  rw [← isFileNode_hollow w, h, isFileNode_hollow]

theorem hollow_appended_congr {w v : Workspace} (h : w.hollow = v.hollow) (path : String)
    (new other : Bytes) : (w.appended path new).hollow = (v.appended path other).hollow := by
  rw [hollow_appended, hollow_appended, h]

end Workspace
end AnalysisHarness
