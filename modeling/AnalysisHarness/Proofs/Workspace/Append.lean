import AnalysisHarness.Workspace.Files

/-!
# Appending to files

An append reaches the file that its path leads to and no other one. It may make a file and name it
in a directory, but what the files that were there hold stays as it is.
-/

namespace AnalysisHarness
namespace Workspace

open Text

def appended (w : Workspace) (path : String) (bytes : Bytes) : Workspace :=
  match w.append path bytes with
  | .ok after => after
  | .error _ => w

def isFileNode (w : Workspace) (id : NodeId) : Bool :=
  match w.node? id with
  | some (.file _) => true
  | _ => false

/-! ## Single nodes -/

theorem exists_bytes_of_isFileNode {w : Workspace} {id : NodeId} (h : w.isFileNode id = true) :
    exists bytes, w.node? id = some (.file bytes) := by
  rw [isFileNode] at h
  split at h
  · rename_i bytes hnode
    exact ⟨bytes, hnode⟩
  · cases h

theorem lt_length_of_node? {w : Workspace} {id : NodeId} {node : FileNode}
    (h : w.node? id = some node) : id < w.nodes.length :=
  (List.getElem?_eq_some_iff.mp h).1

theorem node?_addNode {w : Workspace} {id : NodeId} {node : FileNode} (new : FileNode)
    (h : w.node? id = some node) : (w.addNode new).1.node? id = some node :=
  (List.getElem?_append_left (lt_length_of_node? h)).trans h

theorem node?_putEntry_file {w : Workspace} {id : NodeId} {bytes : Bytes} (directory : NodeId)
    (name : String) (new : NodeId) (h : w.node? id = some (.file bytes)) :
    (w.putEntry directory name new).node? id = some (.file bytes) := by
  unfold putEntry
  split
  · rename_i parent entries hdirectory
    have hne : directory ≠ id := by
      intro heq
      rw [heq, h] at hdirectory
      cases hdirectory
    rw [node?_setNode_of_ne hne]
    exact h
  · exact h

theorem node?_appendTo_self {w : Workspace} {id : NodeId} {old : Bytes} (new : Bytes)
    (h : w.node? id = some (.file old)) :
    (w.appendTo id new).node? id = some (.file (old ++ new)) := by
  simp only [appendTo, h, setBytes]
  exact node?_setNode_self (lt_length_of_node? h)

theorem node?_appendTo_of_ne {w : Workspace} {id other : NodeId} (new : Bytes) (h : id ≠ other) :
    (w.appendTo id new).node? other = w.node? other := by
  unfold appendTo
  split
  · unfold setBytes
    split
    · exact node?_setNode_of_ne h
    · rfl
  · rfl

theorem appendTo_of_other {w : Workspace} {id : NodeId} (hfile : w.isFileNode id = false)
    (hdirectory : w.isDirectoryNode id = false) (new : Bytes) :
    w.appendTo id new = w ∧ w.bytesOf id = .ok [] := by
  rw [isFileNode] at hfile
  rw [isDirectoryNode] at hdirectory
  rw [appendTo, bytesOf]
  cases hnode : w.node? id with
  | none => exact ⟨rfl, rfl⟩
  | some node =>
      rw [hnode] at hfile hdirectory
      cases node with
      | file bytes => cases hfile
      | directory parent entries => cases hdirectory
      | link target => exact ⟨rfl, rfl⟩
      | sink => exact ⟨rfl, rfl⟩

/-! ## Opening -/

theorem find_eq_ok_iff {w : Workspace} {path : String} {id : NodeId} :
    w.find path = .ok id <-> w.locateFrom w.current true path = .ok (.found id) := by
  rw [find, locate]
  split
  · rename_i other hplace
    simp [hplace]
  · rename_i directory name hplace
    simp [hplace]
  · rename_i e hplace
    simp [hplace]

/-- A file is opened where the path leads to it; otherwise one is made, and the others are kept. -/
theorem openFile_cases {w after : Workspace} {path : String} {opened : NodeId}
    (h : w.openFile path = .ok (after, opened)) :
    (w.find path = .ok opened ∧ after = w) ∨
      (opened = w.nodes.length ∧
        exists directory name,
          after = (w.addNode (.file [])).1.putEntry directory name opened) := by
  rw [openFile, openFrom] at h
  cases hplace : w.locateFrom w.current true path with
  | error e =>
      rw [hplace] at h
      cases h
  | ok place =>
      rw [hplace] at h
      cases place with
      | found id =>
          change (if w.isDirectoryNode id then _ else _) = _ at h
          split at h
          · cases h
          · cases h
            exact Or.inl ⟨find_eq_ok_iff.mpr hplace, rfl⟩
      | vacant directory name =>
          change (if asksForDirectory path then _ else _) = _ at h
          split at h
          · cases h
          split at h
          · cases h
          split at h
          · cases h
            exact Or.inr ⟨rfl, directory, name, rfl⟩
          · cases h

theorem openFile_of_find {w : Workspace} {path : String} {id : NodeId} {bytes : Bytes}
    (hfind : w.find path = .ok id) (hfile : w.node? id = some (.file bytes)) :
    w.openFile path = .ok (w, id) := by
  have hnode : w.isDirectoryNode id = false := by rw [isDirectoryNode, hfile]
  rw [openFile, openFrom, find_eq_ok_iff.mp hfind]
  change (if w.isDirectoryNode id then _ else _) = _
  rw [hnode]
  rfl

/-! ## Appending -/

theorem append_of_find {w : Workspace} {path : String} {id : NodeId} {old : Bytes}
    (hfind : w.find path = .ok id) (hfile : w.node? id = some (.file old)) (new : Bytes) :
    w.append path new = .ok (w.appendTo id new) := by
  rw [append, openFile_of_find hfind hfile]
  rfl

theorem append_eq_of_find {w : Workspace} {path : String} {id : NodeId}
    (hfind : w.find path = .ok id) (new : Bytes) :
    w.append path new =
      if w.isDirectoryNode id then .error .isDirectory else .ok (w.appendTo id new) := by
  rw [append, openFile, openFrom, find_eq_ok_iff.mp hfind]
  change (if w.isDirectoryNode id then _ else _) >>= _ = _
  split <;> rfl

theorem node?_appended_of_find {w : Workspace} {path : String} {id : NodeId} {old : Bytes}
    (hfind : w.find path = .ok id) (hfile : w.node? id = some (.file old)) (new : Bytes) :
    (w.appended path new).node? id = some (.file (old ++ new)) := by
  rw [appended, append_of_find hfind hfile]
  exact node?_appendTo_self new hfile

/-- An append leaves every file alone that its path does not lead to. -/
theorem node?_appended_of_ne {w : Workspace} {path : String} {id : NodeId} {old : Bytes}
    (hfind : w.find path ≠ .ok id) (hfile : w.node? id = some (.file old)) (new : Bytes) :
    (w.appended path new).node? id = some (.file old) := by
  rw [appended, append]
  cases hopen : w.openFile path with
  | error e => exact hfile
  | ok result =>
      rcases result with ⟨after, opened⟩
      change (after.appendTo opened new).node? id = _
      rcases openFile_cases hopen with ⟨hfound, rfl⟩ | ⟨hnew, directory, name, rfl⟩
      · have hne : opened ≠ id := by
          intro heq
          rw [heq] at hfound
          exact hfind hfound
        rw [node?_appendTo_of_ne new hne]
        exact hfile
      · have hne : opened ≠ id := by
          intro heq
          have hlt := lt_length_of_node? hfile
          rw [← heq, hnew] at hlt
          exact Nat.lt_irrefl _ hlt
        rw [node?_appendTo_of_ne new hne]
        exact node?_putEntry_file directory name opened (node?_addNode (.file []) hfile)

end Workspace
end AnalysisHarness
