import AnalysisHarness.Proofs.Outcome
import AnalysisHarness.Proofs.Text.Ends
import AnalysisHarness.Proofs.Text.Entries
import AnalysisHarness.Proofs.Workspace.Routes

/-!
# Entries of a directory

An entry is reached by the path of its directory, a slash and its name. A file is removed by taking
its entry out of the directory; all nodes stay, and every path to anything else leads there still.
-/

namespace AnalysisHarness

open Text

namespace Workspace

structure IsFolder (w : Workspace) (folder : String) (id parent : NodeId)
    (entries : Entries) : Prop where
  find : w.find folder = .ok id
  node : w.node? id = some (.directory parent entries)

/-!
## Paths to entries
-/

def entryPath (folder name : String) : String := folder ++ "/" ++ name

structure IsEntryName (folder name : String) : Prop extends IsFileName name where
  short_path : (entryPath folder name).utf8ByteSize ≤ pathLimit

theorem toList_entryPath (folder name : String) :
    (entryPath folder name).toList = folder.toList ++ '/' :: name.toList := by
  simp [entryPath]

theorem components_entryPath (folder : String) {name : String} (hname : '/' ∉ name.toList) :
    components (entryPath folder name) = components folder ++ [name] := by
  rw [components, toList_entryPath, segments_append_sep, segments_of_not_mem hname,
    List.map_append, List.map_singleton, String.ofList_toList]
  rfl

section Entries

variable {w : Workspace} {id parent next : NodeId} {entries : Entries}
variable {folder name : String}

theorem isAbsolute_entryPath (hfolder : folder ≠ "") (name : String) :
    isAbsolute (entryPath folder name) = isAbsolute folder := by
  have hne : folder.toList ≠ [] := fun heq => hfolder (String.toList_eq_nil_iff.mp heq)
  rw [isAbsolute, isAbsolute, toList_entryPath, List.head?_append_of_ne_nil _ hne]

theorem isPath_entryPath (hfolder : IsPath folder) (hname : IsEntryName folder name) :
    IsPath (entryPath folder name) where
  no_nul := by
    rw [toList_entryPath, List.mem_append, List.mem_cons]
    rintro (hmem | heq | hmem)
    · exact hfolder.no_nul hmem
    · exact absurd heq (by decide)
    · exact hname.no_nul hmem
  ne_empty heq := by
    have hnil := congrArg String.toList heq
    rw [toList_entryPath] at hnil
    exact List.append_ne_nil_of_right_ne_nil _ (List.cons_ne_nil _ _) hnil
  short := hname.short_path

theorem locateFrom_entryPath (h : IsFolder w folder id parent entries)
    (hname : IsEntryName folder name) (follow : Bool) :
    exists left, w.locateFrom w.current follow (entryPath folder name) =
      w.walk follow left id [name] := by
  rcases find_eq_ok_iff_route.mp h.find with ⟨hfolder, hroute⟩
  rcases hroute.walk_append (Or.inl (List.cons_ne_nil name [])) with ⟨left, hleft⟩
  rw [locateFrom_of_isPath (isPath_entryPath hfolder hname), startOf,
    isAbsolute_entryPath hfolder.ne_empty, components_entryPath folder hname.no_slash]
  exact ⟨left, hleft⟩

theorem locateFrom_entryPath_of_file (h : IsFolder w folder id parent entries)
    (hname : IsEntryName folder name) (hentry : entries.find? name = some next)
    (hfile : w.isFileNode next = true) (follow : Bool) :
    w.locateFrom w.current follow (entryPath folder name) = .ok (.found next) := by
  rcases exists_bytes_of_isFileNode hfile with ⟨bytes, hbytes⟩
  have hlink : forall target, w.node? next ≠ some (.link target) := by
    intro target heq
    cases hbytes.symm.trans heq
  rcases locateFrom_entryPath h hname follow with ⟨left, hleft⟩
  rw [hleft, walk_into h.node hname.toIsComponent hentry hlink, walk_nil]

theorem find_entryPath_of_file (h : IsFolder w folder id parent entries)
    (hname : IsEntryName folder name) (hentry : entries.find? name = some next)
    (hfile : w.isFileNode next = true) : w.find (entryPath folder name) = .ok next :=
  find_eq_ok_iff.mpr (locateFrom_entryPath_of_file h hname hentry hfile true)

theorem find_entryPath_of_missing (h : IsFolder w folder id parent entries)
    (hname : IsEntryName folder name) (hentry : entries.find? name = none) :
    w.find (entryPath folder name) = .error .notFound := by
  rcases locateFrom_entryPath h hname true with ⟨left, hleft⟩
  rw [walk_component h.node hname.toIsComponent, hentry] at hleft
  rw [find, locate, hleft]
  rfl

theorem read_entryPath (h : IsFolder w folder id parent entries)
    (hname : IsEntryName folder name) (hentry : entries.find? name = some next) {bytes : Bytes}
    (hbytes : w.node? next = some (.file bytes)) :
    w.read (entryPath folder name) = .ok bytes := by
  have hfile : w.isFileNode next = true := by rw [isFileNode, hbytes]
  have hread : w.bytesOf next = .ok bytes := by rw [bytesOf, hbytes]
  exact bind_eq_ok (find_entryPath_of_file h hname hentry hfile) hread

theorem parentFrom_entryPath (h : IsFolder w folder id parent entries)
    (hname : IsEntryName folder name) :
    w.parentFrom w.current (entryPath folder name) = .ok (id, name) := by
  rcases find_eq_ok_iff_route.mp h.find with ⟨hfolder, hroute⟩
  have hdirectory : w.isDirectoryNode id = true := by rw [isDirectoryNode, h.node]
  have htrimmed : trimmedComponents (entryPath folder name) = components folder ++ [name] := by
    rw [trimmedComponents, components_entryPath folder hname.no_slash]
    apply dropEndWhile_concat_of_neg
    simp [hname.ne_empty, hname.ne_dot]
  rw [parentFrom, htrimmed, List.getLast?_concat, List.dropLast_concat,
    isAbsolute_entryPath hfolder.ne_empty]
  refine bind_eq_ok hroute.walk_eq ?_
  dsimp only
  rw [hdirectory]
  exact if_neg (Nat.not_lt.mpr hname.short)

theorem remove_entryPath (h : IsFolder w folder id parent entries)
    (hname : IsEntryName folder name) (hentry : entries.find? name = some next)
    (hfile : w.isFileNode next = true) :
    w.remove (entryPath folder name) = .ok (w.dropEntry id name) := by
  have hnotDirectory : w.isDirectoryNode next = false := by
    rcases exists_bytes_of_isFileNode hfile with ⟨bytes, hbytes⟩
    rw [isDirectoryNode, hbytes]
  have hasks : asksForDirectory (entryPath folder name) = false := by
    have hne : name.toList ≠ [] := fun heq => hname.ne_empty (String.toList_eq_nil_iff.mp heq)
    rw [asksForDirectory, toList_entryPath, List.getLast?_append_of_ne_nil _ (List.cons_ne_nil _ _),
      List.getLast?_cons_of_ne_nil hne, beq_eq_false_iff_ne]
    exact fun heq => hname.no_slash (List.mem_of_getLast? heq)
  rw [remove, removeFrom]
  refine bind_eq_ok (locateFrom_entryPath_of_file h hname hentry hfile false) ?_
  dsimp only
  rw [hnotDirectory, hasks]
  exact bind_eq_ok (parentFrom_entryPath h hname) rfl

end Entries

/-!
## Taking an entry out
-/

section Dropping

variable {w : Workspace} {directory parent next : NodeId} {entries : Entries} {name : String}

@[simp] theorem current_dropEntry (w : Workspace) (directory : NodeId) (name : String) :
    (w.dropEntry directory name).current = w.current := by
  unfold dropEntry
  split <;> rfl

theorem node?_dropEntry_self (h : w.node? directory = some (.directory parent entries))
    (name : String) :
    (w.dropEntry directory name).node? directory =
      some (.directory parent (entries.keep (· != name))) := by
  simp only [dropEntry, h]
  exact node?_setNode_self (lt_length_of_node? h)

theorem node?_dropEntry_of_ne (w : Workspace) {other : NodeId} (h : directory ≠ other)
    (name : String) : (w.dropEntry directory name).node? other = w.node? other := by
  unfold dropEntry
  split
  · exact node?_setNode_of_ne h
  · rfl

theorem find?_dropEntry (hdirectory : w.node? directory = some (.directory parent entries))
    (name : String) {id above : NodeId} {inside : Entries}
    (hid : w.node? id = some (.directory above inside)) :
    exists left, (w.dropEntry directory name).node? id = some (.directory above left) ∧
      forall key, left.find? key =
        if id = directory ∧ key = name then none else inside.find? key := by
  by_cases heq : directory = id
  · cases heq
    cases Option.some.inj (hdirectory.symm.trans hid)
    refine ⟨_, node?_dropEntry_self hdirectory name, ?_⟩
    intro key
    rw [Entries.find?_keep]
    by_cases hkey : key = name
    · simp [hkey]
    · simp [hkey]
  · refine ⟨inside, (node?_dropEntry_of_ne w heq name).trans hid, ?_⟩
    intro key
    rw [if_neg fun h => heq h.1.symm]

theorem exists_of_dropEntry (hdirectory : w.node? directory = some (.directory parent entries))
    {name : String} {id above : NodeId} {left : Entries}
    (hid : (w.dropEntry directory name).node? id = some (.directory above left)) :
    exists inside, w.node? id = some (.directory above inside) := by
  by_cases heq : directory = id
  · cases heq
    cases Option.some.inj (hid.symm.trans (node?_dropEntry_self hdirectory name))
    exact ⟨entries, hdirectory⟩
  · exact ⟨left, (node?_dropEntry_of_ne w heq name).symm.trans hid⟩

theorem link_dropEntry_iff (hdirectory : w.node? directory = some (.directory parent entries))
    (name : String) (id : NodeId) (text : String) :
    (w.dropEntry directory name).node? id = some (.link text) <->
      w.node? id = some (.link text) := by
  by_cases heq : directory = id
  · cases heq
    rw [node?_dropEntry_self hdirectory, hdirectory]
    simp
  · rw [node?_dropEntry_of_ne w heq]

/-- Where the entry of a file is taken out, the routes to everything else stay. -/
theorem route_dropEntry_iff {links : Nat} {id target : NodeId} {names : List String}
    (hdirectory : w.node? directory = some (.directory parent entries))
    (hentry : entries.find? name = some next) (hfile : w.isFileNode next = true)
    (hne : next ≠ target) :
    Route (w.dropEntry directory name) links id names target <-> Route w links id names target := by
  constructor
  · intro h
    refine h.mono ?_ fun id text => (link_dropEntry_iff hdirectory name id text).symm
    intro id above left hleft
    rcases exists_of_dropEntry hdirectory hleft with ⟨inside, hinside⟩
    rcases find?_dropEntry hdirectory name hinside with ⟨left', hleft', hfind⟩
    cases hleft.symm.trans hleft'
    refine ⟨inside, hinside, fun key there hthere => Or.inl ?_⟩
    rw [hfind] at hthere
    split at hthere
    · cases hthere
    · exact hthere
  · intro h
    refine h.mono ?_ (link_dropEntry_iff hdirectory name)
    intro id above inside hinside
    rcases find?_dropEntry hdirectory name hinside with ⟨left, hleft, hfind⟩
    refine ⟨left, hleft, fun key there hthere => ?_⟩
    rw [hfind]
    by_cases hgone : id = directory ∧ key = name
    · rcases hgone with ⟨rfl, rfl⟩
      cases hinside.symm.trans hdirectory
      cases hthere.symm.trans hentry
      exact Or.inr ⟨hne, hfile⟩
    · rw [if_neg hgone]
      exact Or.inl hthere

theorem find_dropEntry_eq_ok_iff {path : String} {target : NodeId}
    (hdirectory : w.node? directory = some (.directory parent entries))
    (hentry : entries.find? name = some next) (hfile : w.isFileNode next = true)
    (hne : next ≠ target) :
    (w.dropEntry directory name).find path = .ok target <-> w.find path = .ok target := by
  have hstart : (w.dropEntry directory name).startOf path = w.startOf path := by
    rw [startOf, startOf, current_dropEntry]
  rw [find_eq_ok_iff_route, find_eq_ok_iff_route, hstart,
    route_dropEntry_iff hdirectory hentry hfile hne]

end Dropping

/-!
## Taking several entries out
-/

/-- The disk as it was, but for the entries of a folder under some names. -/
structure Without (w : Workspace) (folder : String) (names : List String) (after : Workspace) :
    Prop where
  current : after.current = w.current
  kept {id parent : NodeId} {entries : Entries} (h : IsFolder w folder id parent entries) :
    after.node? id = some (.directory parent (entries.keep (· ∉ names)))
  others {id : NodeId} (h : forall parent entries, ¬IsFolder w folder id parent entries) :
    after.node? id = w.node? id
  /-- All paths to something else lead where they led. -/
  paths {path : String} {id : NodeId}
    (h : forall name, name ∈ names -> w.find (entryPath folder name) ≠ .ok id) :
    after.find path = .ok id <-> w.find path = .ok id

section Several

variable {w after : Workspace} {folder name : String} {names : List String}
variable {id parent next : NodeId} {entries : Entries}

theorem IsFolder.unique {id' parent' : NodeId} {entries' : Entries}
    (h : IsFolder w folder id parent entries) (h' : IsFolder w folder id' parent' entries') :
    id = id' ∧ parent = parent' ∧ entries = entries' := by
  cases h.find.symm.trans h'.find
  cases h.node.symm.trans h'.node
  exact ⟨rfl, rfl, rfl⟩

theorem IsFolder.ne_file (h : IsFolder w folder id parent entries)
    (hfile : w.isFileNode next = true) : id ≠ next := by
  rintro rfl
  rw [isFileNode, h.node] at hfile
  cases hfile

theorem IsFolder.dropEntry (h : IsFolder w folder id parent entries)
    (hentry : entries.find? name = some next) (hfile : w.isFileNode next = true) :
    IsFolder (w.dropEntry id name) folder id parent (entries.keep (· != name)) where
  find := (find_dropEntry_eq_ok_iff h.node hentry hfile (h.ne_file hfile).symm).mpr h.find
  node := node?_dropEntry_self h.node name

theorem Without.refl (w : Workspace) (folder : String) : Without w folder [] w where
  current := rfl
  kept h := by
    have hall : (fun name : String => decide (name ∉ [])) = fun _ => true := by simp
    rw [h.node, hall, Entries.keep_true]
  others _h := rfl
  paths _h := Iff.rfl

theorem Without.cons (h : IsFolder w folder id parent entries) (hname : IsEntryName folder name)
    (hentry : entries.find? name = some next) (hfile : w.isFileNode next = true)
    (hafter : Without (w.dropEntry id name) folder names after) :
    Without w folder (name :: names) after where
  current := hafter.current.trans (current_dropEntry w id name)
  kept := by
    intro id' parent' entries' h'
    rcases h.unique h' with ⟨rfl, rfl, rfl⟩
    have hboth :
        forall key, (decide (key ∉ names) && key != name) = decide (key ∉ name :: names) := by
      intro key
      rw [Bool.eq_iff_iff]
      simp [and_comm]
    rw [hafter.kept (h.dropEntry hentry hfile), Entries.keep_keep]
    simp only [hboth]
  others := by
    intro other hother
    have hne : id ≠ other := by
      rintro rfl
      exact hother parent entries h
    rw [hafter.others fun parent' entries' h' => hne ((h.dropEntry hentry hfile).unique h').1]
    exact node?_dropEntry_of_ne w hne name
  paths := by
    intro path target htarget
    rcases List.forall_mem_cons.mp htarget with ⟨hfirst, hrest⟩
    have hne : next ≠ target := by
      rintro rfl
      exact hfirst (find_entryPath_of_file h hname hentry hfile)
    have hsame : forall path, (w.dropEntry id name).find path = .ok target <->
        w.find path = .ok target :=
      fun _path => find_dropEntry_eq_ok_iff h.node hentry hfile hne
    rw [hafter.paths fun key hkey => mt (hsame _).mp (hrest key hkey), hsame]

def AreFiles (w : Workspace) (folder : String) (entries : Entries) (names : List String) :
    Prop :=
  forall name, name ∈ names -> IsEntryName folder name ∧
    exists next, entries.find? name = some next ∧ w.isFileNode next = true

theorem AreFiles.dropEntry (h : IsFolder w folder id parent entries)
    (hnames : AreFiles w folder entries names) (hname : name ∉ names) :
    AreFiles (w.dropEntry id name) folder (entries.keep (· != name)) names := by
  intro other hother
  rcases hnames other hother with ⟨hpath, next, hentry, hfile⟩
  have hkey : (other != name) = true := by
    rw [bne_iff_ne]
    rintro rfl
    exact hname hother
  refine ⟨hpath, next, ?_, ?_⟩
  · rw [Entries.find?_keep, if_pos hkey, hentry]
  · rw [isFileNode, node?_dropEntry_of_ne w (h.ne_file hfile)]
    exact hfile

theorem Without.isFolder (hafter : Without w folder names after)
    (h : IsFolder w folder id parent entries) (hnames : AreFiles w folder entries names) :
    IsFolder after folder id parent (entries.keep (· ∉ names)) where
  find := by
    apply (hafter.paths ?_).mpr h.find
    intro name hname heq
    rcases hnames name hname with ⟨hpath, next, hentry, hfile⟩
    have hfound := find_entryPath_of_file h hpath hentry hfile
    exact h.ne_file hfile (Except.ok.inj (heq.symm.trans hfound))
  node := hafter.kept h

theorem Without.find_removed (hafter : Without w folder names after)
    (h : IsFolder w folder id parent entries) (hnames : AreFiles w folder entries names)
    (hname : name ∈ names) : after.find (entryPath folder name) = .error .notFound := by
  have hgone : (entries.keep (· ∉ names)).find? name = none := by
    rw [Entries.find?_keep, if_neg (by simp [hname])]
  exact find_entryPath_of_missing (hafter.isFolder h hnames) (hnames name hname).1 hgone

end Several

end Workspace
end AnalysisHarness
