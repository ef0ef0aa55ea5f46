import AnalysisHarness.Proofs.Workspace.Hollow

/-!
# Writing files

A write changes the file that its path leads to and no other one. Where the path leads to nothing,
the file is made, and then the path leads to it; all other paths lead where they led.
-/

namespace AnalysisHarness
namespace Workspace

open Text

/-! ## Contents -/

theorem hollow_setBytes (w : Workspace) (id : NodeId) (bytes : Bytes) :
    (w.setBytes id bytes).hollow = w.hollow := by
  rw [setBytes]
  split
  · rename_i old hold
    have hnode : w.hollow.nodes[id]? = some (.file []) := by
      have hhollow := node?_hollow w id
      rw [hold] at hhollow
      exact hhollow
    rcases List.getElem?_eq_some_iff.mp hnode with ⟨hlt, hget⟩
    have hset : w.hollow.nodes.set id (.file []) = w.hollow.nodes := by
      rw [← hget]
      exact List.set_getElem_self hlt
    rw [hollow_setNode, setNode]
    exact congrArg (fun nodes => { w with nodes := nodes }) hset
  · rfl

theorem find_appendTo (w : Workspace) (id : NodeId) (new : Bytes) (path : String) :
    (w.appendTo id new).find path = w.find path := by
  rw [appendTo]
  split
  · exact find_congr (hollow_setBytes w id _) path
  · rfl

theorem node?_setBytes_self {w : Workspace} {id : NodeId} {old : Bytes} (bytes : Bytes)
    (h : w.node? id = some (.file old)) : (w.setBytes id bytes).node? id = some (.file bytes) := by
  rw [setBytes, h]
  exact node?_setNode_self (lt_length_of_node? h)

theorem node?_setBytes_of_ne {w : Workspace} {id other : NodeId} (bytes : Bytes)
    (h : id ≠ other) : (w.setBytes id bytes).node? other = w.node? other := by
  rw [setBytes]
  split
  · exact node?_setNode_of_ne h
  · rfl

/-- The two disks hold the same files under the same paths, except for one file. -/
structure SameBut (id : NodeId) (w after : Workspace) : Prop where
  files (other : NodeId) (bytes : Bytes) : other ≠ id ->
    (after.node? other = some (.file bytes) <-> w.node? other = some (.file bytes))
  paths (path : String) (other : NodeId) : other ≠ id ->
    (after.find path = .ok other <-> w.find path = .ok other)

theorem sameBut_setBytes (w : Workspace) (id : NodeId) (bytes : Bytes) :
    SameBut id w (w.setBytes id bytes) where
  files other content hne := by rw [node?_setBytes_of_ne bytes (Ne.symm hne)]
  paths path other _hne := by rw [find_congr (hollow_setBytes w id bytes)]

theorem SameBut.trans {id : NodeId} {w v u : Workspace} (h : SameBut id w v)
    (h' : SameBut id v u) : SameBut id w u where
  files other bytes hne := (h'.files other bytes hne).trans (h.files other bytes hne)
  paths path other hne := (h'.paths path other hne).trans (h.paths path other hne)

/-!
## A name that is taken

A new file gets a name that was free in some directory. A path that came to the free name comes to
the file now, and every other path comes to where it came before.
-/

/-- Where a path leads once a free name of a directory has been given to a node. -/
inductive Taken (directory : NodeId) (name : String) (id : NodeId) :
    Except IoError Place -> Except IoError Place -> Prop where
  | found (other : NodeId) : Taken directory name id (.ok (.found other)) (.ok (.found other))
  | taken : Taken directory name id (.ok (.vacant directory name)) (.ok (.found id))
  | vacant {other : NodeId} {free : String} (h : (other, free) ≠ (directory, name)) :
      Taken directory name id (.ok (.vacant other free)) (.ok (.vacant other free))
  | failed (e e' : IoError) : Taken directory name id (.error e) (.error e')

def withNewFile (w : Workspace) (directory : NodeId) (name : String) : Workspace :=
  (w.addNode (.file [])).1.putEntry directory name w.nodes.length

section NewFile

variable {w : Workspace} {directory parent : NodeId} {entries : Entries} {name : String}

theorem node?_withNewFile_directory (h : w.node? directory = some (.directory parent entries)) :
    (w.withNewFile directory name).node? directory =
      some (.directory parent (entries.put name w.nodes.length)) := by
  have hkept := node?_addNode (.file []) h
  rw [withNewFile, putEntry, hkept]
  exact node?_setNode_self (lt_length_of_node? hkept)

theorem node?_withNewFile_of_ne (h : w.node? directory = some (.directory parent entries))
    {id : NodeId} (hne : directory ≠ id) :
    (w.withNewFile directory name).node? id = (w.addNode (.file [])).1.node? id := by
  rw [withNewFile, putEntry, node?_addNode (.file []) h]
  exact node?_setNode_of_ne hne

theorem node?_withNewFile_new (h : w.node? directory = some (.directory parent entries)) :
    (w.withNewFile directory name).node? w.nodes.length = some (.file []) := by
  have hne : directory ≠ w.nodes.length := Nat.ne_of_lt (lt_length_of_node? h)
  rw [node?_withNewFile_of_ne h hne]
  exact List.getElem?_concat_length

theorem node?_withNewFile_old (h : w.node? directory = some (.directory parent entries))
    {id : NodeId} (hne : directory ≠ id) (hold : id ≠ w.nodes.length) :
    (w.withNewFile directory name).node? id = w.node? id := by
  rw [node?_withNewFile_of_ne h hne, node?, addNode, node?, List.getElem?_append]
  split
  · rfl
  · rename_i hlength
    have hbeyond : [FileNode.file []].length ≤ id - w.nodes.length :=
      Nat.sub_pos_of_lt (Nat.lt_of_le_of_ne (Nat.le_of_not_lt hlength) (Ne.symm hold))
    rw [List.getElem?_eq_none (Nat.le_of_not_lt hlength), List.getElem?_eq_none hbeyond]

theorem node?_withNewFile_eq_link_iff (h : w.node? directory = some (.directory parent entries))
    (id : NodeId) (target : String) :
    (w.withNewFile directory name).node? id = some (.link target) <->
      w.node? id = some (.link target) := by
  by_cases hdirectory : directory = id
  · rw [← hdirectory, node?_withNewFile_directory h, h]
    simp
  · by_cases hnew : id = w.nodes.length
    · rw [hnew, node?_withNewFile_new h, node?, List.getElem?_eq_none (Nat.le_refl _)]
      simp
    · rw [node?_withNewFile_old h hdirectory hnew]

theorem node?_withNewFile_eq_directory (name : String)
    (h : w.node? directory = some (.directory parent entries))
    {id above : NodeId} {names : Entries} (hid : w.node? id = some (.directory above names)) :
    exists names', (w.withNewFile directory name).node? id = some (.directory above names') ∧
      forall key, (id, key) ≠ (directory, name) -> names'.find? key = names.find? key := by
  by_cases hdirectory : directory = id
  · cases hdirectory
    rw [h] at hid
    cases hid
    refine ⟨_, node?_withNewFile_directory h, ?_⟩
    intro key hkey
    have hne : key ≠ name := by
      intro heq
      exact hkey (by rw [heq])
    exact Entries.find?_put_of_ne hne w.nodes.length entries
  · have hold : id ≠ w.nodes.length := Nat.ne_of_lt (lt_length_of_node? hid)
    rw [node?_withNewFile_old h hdirectory hold]
    exact ⟨names, hid, fun key _hkey => rfl⟩

theorem not_directory_of_withNewFile (h : w.node? directory = some (.directory parent entries))
    {id : NodeId} (hid : forall above names, w.node? id ≠ some (.directory above names))
    (above : NodeId) (names : Entries) :
    (w.withNewFile directory name).node? id ≠ some (.directory above names) := by
  intro hdir
  by_cases hdirectory : directory = id
  · cases hdirectory
    exact hid parent entries h
  · by_cases hnew : id = w.nodes.length
    · rw [hnew, node?_withNewFile_new h] at hdir
      cases hdir
    · rw [node?_withNewFile_old h hdirectory hnew] at hdir
      exact hid above names hdir

theorem walkWith_cons_of_directory {id above : NodeId} {names : Entries}
    (hid : w.node? id = some (.directory above names)) (follow : Bool)
    (expand : NodeId -> List String -> Except IoError Place) (key : String) (rest : List String) :
    w.walkWith follow expand id (key :: rest) =
      if key = "" ∨ key = "." then w.walkWith follow expand id rest
      else if key = ".." then w.walkWith follow expand above rest
      else if nameLimit < key.utf8ByteSize then .error .nameTooLong
      else
        match names.find? key with
        | none => if rest.isEmpty then .ok (.vacant id key) else .error .notFound
        | some next =>
            match w.node? next with
            | some (.link target) =>
                if rest.isEmpty && !follow then .ok (.found next)
                else expand (if isAbsolute target then 0 else id) (components target ++ rest)
            | _ => w.walkWith follow expand next rest := by
  rw [walkWith]
  generalize w.node? id = found at hid ⊢
  subst hid
  rfl

theorem walkWith_cons_of_not_directory {id : NodeId}
    (hid : forall above names, w.node? id ≠ some (.directory above names)) (follow : Bool)
    (expand : NodeId -> List String -> Except IoError Place) (key : String) (rest : List String) :
    w.walkWith follow expand id (key :: rest) = .error .notDirectory := by
  rw [walkWith]
  split
  · rename_i above names hdirectory
    exact absurd hdirectory (hid above names)
  · rfl

theorem taken_walkWith (h : w.node? directory = some (.directory parent entries))
    (hname : IsFileName name) (hfree : entries.find? name = none) (follow : Bool)
    {expand expand' : NodeId -> List String -> Except IoError Place}
    (hexpand : forall id rest,
      Taken directory name w.nodes.length (expand id rest) (expand' id rest))
    (id : NodeId) (path : List String) :
    Taken directory name w.nodes.length (w.walkWith follow expand id path)
      ((w.withNewFile directory name).walkWith follow expand' id path) := by
  induction path generalizing id with
  | nil => exact .found id
  | cons key rest ih =>
      by_cases hid : exists above names, w.node? id = some (.directory above names)
      · rcases hid with ⟨above, names, hid⟩
        rcases node?_withNewFile_eq_directory name h hid with ⟨names', hid', hlookup⟩
        rw [walkWith_cons_of_directory hid, walkWith_cons_of_directory hid']
        split
        · exact ih id
        split
        · exact ih above
        split
        · exact .failed _ _
        by_cases hhere : (id, key) = (directory, name)
        · cases hhere
          rw [h] at hid
          rw [node?_withNewFile_directory h] at hid'
          cases hid
          cases hid'
          simp only [hfree, Entries.find?_put hname, if_pos, node?_withNewFile_new h]
          cases rest with
          | nil => exact .taken
          | cons next rest =>
              have hfile : forall above names,
                  (w.withNewFile directory name).node? w.nodes.length ≠
                    some (.directory above names) := by
                intro above names hdirectory
                rw [node?_withNewFile_new h] at hdirectory
                cases hdirectory
              rw [walkWith_cons_of_not_directory hfile]
              exact .failed _ _
        · rw [hlookup key hhere]
          cases names.find? key with
          | none =>
              dsimp only
              split
              · exact .vacant hhere
              · exact .failed _ _
          | some next =>
              by_cases hlink : exists target, w.node? next = some (.link target)
              · rcases hlink with ⟨target, hlink⟩
                simp only [hlink, (node?_withNewFile_eq_link_iff h next target).mpr hlink]
                split
                · exact .found next
                · exact hexpand _ _
              · have hlink' : forall target, w.node? next ≠ some (.link target) :=
                  fun target heq => hlink ⟨target, heq⟩
                have hnew' : forall target,
                    (w.withNewFile directory name).node? next ≠ some (.link target) :=
                  fun target heq =>
                    hlink' target ((node?_withNewFile_eq_link_iff h next target).mp heq)
                dsimp only
                split
                · rename_i target heq
                  exact absurd heq (hlink' target)
                · exact ih next
      · have hid' : forall above names, w.node? id ≠ some (.directory above names) :=
          fun above names heq => hid ⟨above, names, heq⟩
        rw [walkWith_cons_of_not_directory hid',
          walkWith_cons_of_not_directory (not_directory_of_withNewFile h hid')]
        exact .failed _ _

theorem taken_walk (h : w.node? directory = some (.directory parent entries))
    (hname : IsFileName name) (hfree : entries.find? name = none) (follow : Bool) (links : Nat)
    (id : NodeId) (path : List String) :
    Taken directory name w.nodes.length (w.walk follow links id path)
      ((w.withNewFile directory name).walk follow links id path) := by
  induction links generalizing id path with
  | zero => exact taken_walkWith h hname hfree follow (fun _ _ => .failed _ _) id path
  | succ links ih => exact taken_walkWith h hname hfree follow ih id path

theorem taken_locateFrom (h : w.node? directory = some (.directory parent entries))
    (hname : IsFileName name) (hfree : entries.find? name = none) (start : NodeId) (follow : Bool)
    (path : String) :
    Taken directory name w.nodes.length (w.locateFrom start follow path)
      ((w.withNewFile directory name).locateFrom start follow path) := by
  rw [locateFrom, locateFrom]
  split
  · exact .failed _ _
  split
  · exact .failed _ _
  split
  · exact .failed _ _
  · exact taken_walk h hname hfree follow linkLimit _ _

theorem current_withNewFile (h : w.node? directory = some (.directory parent entries)) :
    (w.withNewFile directory name).current = w.current := by
  rw [withNewFile, putEntry, node?_addNode (.file []) h]
  rfl

/-- All paths to other nodes are kept, and the path that came to the free name leads to the file. -/
theorem sameBut_withNewFile (h : w.node? directory = some (.directory parent entries))
    (hname : IsFileName name) (hfree : entries.find? name = none) :
    SameBut w.nodes.length w (w.withNewFile directory name) where
  files other bytes hne := by
    by_cases hdirectory : directory = other
    · rw [← hdirectory, node?_withNewFile_directory h, h]
      simp
    · rw [node?_withNewFile_old h hdirectory hne]
  paths path other hne := by
    rw [find_eq_ok_iff, find_eq_ok_iff, current_withNewFile h]
    have htaken := taken_locateFrom h hname hfree w.current true path
    generalize w.locateFrom w.current true path = before at htaken ⊢
    generalize (w.withNewFile directory name).locateFrom w.current true path = after at htaken ⊢
    cases htaken with
    | found id => rfl
    | taken =>
        constructor
        · intro heq
          cases heq
          exact absurd rfl hne
        · intro heq
          cases heq
    | vacant hother => rfl
    | failed e e' => simp

theorem find_withNewFile (h : w.node? directory = some (.directory parent entries))
    (hname : IsFileName name) (hfree : entries.find? name = none) {path : String}
    (hvacant : w.locateFrom w.current true path = .ok (.vacant directory name)) :
    (w.withNewFile directory name).find path = .ok w.nodes.length := by
  have htaken := taken_locateFrom h hname hfree w.current true path
  rw [hvacant] at htaken
  rw [find_eq_ok_iff, current_withNewFile h]
  generalize (w.withNewFile directory name).locateFrom w.current true path = after at htaken ⊢
  cases htaken with
  | taken => rfl
  | vacant hother => exact absurd rfl hother

end NewFile

/-! ## Free names -/

def FreeIn (w : Workspace) (place : Except IoError Place) : Prop :=
  forall directory name, place = .ok (.vacant directory name) ->
    exists parent entries, w.node? directory = some (.directory parent entries) ∧
      entries.find? name = none

theorem freeIn_walkWith (w : Workspace) (follow : Bool)
    {expand : NodeId -> List String -> Except IoError Place}
    (hexpand : forall id rest, FreeIn w (expand id rest)) (id : NodeId) (path : List String) :
    FreeIn w (w.walkWith follow expand id path) := by
  induction path generalizing id with
  | nil =>
      intro directory name heq
      cases heq
  | cons key rest ih =>
      by_cases hid : exists above names, w.node? id = some (.directory above names)
      · rcases hid with ⟨above, names, hid⟩
        rw [walkWith_cons_of_directory hid]
        split
        · exact ih id
        split
        · exact ih above
        split
        · intro directory name heq
          cases heq
        split
        · rename_i hnone
          intro directory name heq
          split at heq
          · cases heq
            exact ⟨above, names, hid, hnone⟩
          · cases heq
        · rename_i next hnext
          split
          · split
            · intro directory name heq
              cases heq
            · exact hexpand _ _
          · exact ih next
      · rw [walkWith_cons_of_not_directory fun above names heq => hid ⟨above, names, heq⟩]
        intro directory name heq
        cases heq

theorem freeIn_walk (w : Workspace) (follow : Bool) (links : Nat) (id : NodeId)
    (path : List String) : FreeIn w (w.walk follow links id path) := by
  induction links generalizing id path with
  | zero =>
      refine freeIn_walkWith w follow ?_ id path
      intro id rest directory name heq
      cases heq
  | succ links ih => exact freeIn_walkWith w follow ih id path

theorem freeIn_locateFrom (w : Workspace) (start : NodeId) (follow : Bool) (path : String) :
    FreeIn w (w.locateFrom start follow path) := by
  intro directory name heq
  rw [locateFrom] at heq
  split at heq
  · cases heq
  split at heq
  · cases heq
  split at heq
  · cases heq
  · exact freeIn_walk w follow linkLimit _ _ directory name heq

/-! ## Writing -/

/--
A write leaves the path leading to a file that holds what was written, or else to a device that
was there before. It leaves everything else as it was.
-/
theorem write_ok {w after : Workspace} {path : String} {bytes : Bytes}
    (h : w.write path bytes = .ok after) :
    exists id, after.find path = .ok id ∧ SameBut id w after ∧
      (after.node? id = some (.file bytes) ∨
        w.find path = .ok id ∧ w.isFileNode id = false ∧ after = w) := by
  rw [write] at h
  cases hopen : w.openFile path with
  | error e =>
      rw [hopen] at h
      cases h
  | ok opened =>
      rcases opened with ⟨v, id⟩
      rw [hopen] at h
      cases h
      refine ⟨id, ?_⟩
      rw [find_congr (hollow_setBytes v id bytes)]
      rw [openFile, openFrom] at hopen
      cases hplace : w.locateFrom w.current true path with
      | error e =>
          rw [hplace] at hopen
          cases hopen
      | ok place =>
          rw [hplace] at hopen
          cases place with
          | found found =>
              change (if w.isDirectoryNode found then _ else _) = _ at hopen
              split at hopen
              · cases hopen
              · cases hopen
                have hfind := find_eq_ok_iff.mpr hplace
                refine ⟨hfind, sameBut_setBytes w id bytes, ?_⟩
                cases hfile : w.isFileNode id with
                | true =>
                    rcases exists_bytes_of_isFileNode hfile with ⟨old, hold⟩
                    exact Or.inl (node?_setBytes_self bytes hold)
                | false =>
                    refine Or.inr ⟨hfind, rfl, ?_⟩
                    rw [setBytes]
                    split
                    · rename_i old hold
                      rw [isFileNode, hold] at hfile
                      cases hfile
                    · rfl
          | vacant directory name =>
              rcases freeIn_locateFrom w w.current true path directory name hplace with
                ⟨parent, entries, hdirectory, hfree⟩
              change (if asksForDirectory path then _ else _) = _ at hopen
              split at hopen
              · cases hopen
              split at hopen
              · cases hopen
              split at hopen
              · rename_i hname
                cases hopen
                refine ⟨find_withNewFile hdirectory hname hfree hplace, ?_, Or.inl ?_⟩
                · exact (sameBut_withNewFile hdirectory hname hfree).trans
                    (sameBut_setBytes _ _ bytes)
                · exact node?_setBytes_self bytes (node?_withNewFile_new hdirectory)
              · cases hopen

end Workspace
end AnalysisHarness
