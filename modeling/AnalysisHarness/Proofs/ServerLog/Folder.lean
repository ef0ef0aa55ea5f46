import AnalysisHarness.Proofs.Path
import AnalysisHarness.Proofs.Text.ByteOrder
import AnalysisHarness.Proofs.Workspace.Removal
import AnalysisHarness.ServerLog.Folder

/-!
# Showing and removing the logs of a server

What is shown and what is removed are the same files: the regular files right in the folder whose
name ends in the extension for logs. Nothing else on the disk changes, and there is no log left.
-/

namespace AnalysisHarness
namespace ServerLog

open Text Workspace

/-- A regular file in the folder of a server, with a name that ends in ".log" after something. -/
inductive IsLog (files : Workspace) (home name : String) (bytes : Bytes) : Prop
  | mk {id parent node : NodeId} {entries : Entries} {stem : String}
      (hfolder : IsFolder files (folder home) id parent entries)
      (hentry : entries.find? name = some node) (hfile : files.node? node = some (.file bytes))
      (hname : name = stem ++ ".log") (hstem : stem ≠ "")

/-!
## Names
-/

theorem isLogName_iff {name : String} :
    (Path.extension? name == some "log") = true <->
      exists stem, stem ≠ "" ∧ name = stem ++ ".log" := by
  have hlog : forall stem : String, stem ++ "." ++ "log" = stem ++ ".log" := by
    intro stem
    rw [String.append_assoc]
    rfl
  rw [beq_iff_eq, Path.extension?_eq_some_iff]
  simp only [hlog]
  constructor
  · rintro ⟨_hdots, _hext, hstem⟩
    exact hstem
  · rintro ⟨stem, hne, rfl⟩
    refine ⟨?_, by decide, stem, hne, rfl⟩
    intro heq
    have hlength := congrArg (fun s => s.toList.length) heq
    simp at hlength

theorem getLast?_folder (home : String) : (folder home).toList.getLast? = some 's' := by
  have hends : forall before : String, (before ++ "logs").toList.getLast? = some 's' := by
    intro before
    simp [List.getLast?_append]
  rw [folder, Path.join]
  split
  · rfl
  split
  · rfl
  split
  · exact hends home
  · exact hends (home ++ "/")

theorem join_folder (home : String) {name : String} (hname : '/' ∉ name.toList) :
    Path.join (folder home) name = entryPath (folder home) name := by
  have hlast := getLast?_folder home
  have hrelative : Path.isAbsolute name = false := by
    rw [Path.isAbsolute, beq_eq_false_iff_ne]
    exact fun heq => hname (List.mem_of_head? heq)
  have hne : folder home ≠ "" := by
    intro heq
    rw [heq] at hlast
    cases hlast
  rw [Path.join, hrelative, if_neg Bool.false_ne_true, if_neg hne, hlast, if_neg (by decide)]
  rfl

/-!
## The logs of a server
-/

def logOf? (files : Workspace) (entry : String × NodeId) : Option (String × Bytes) :=
  match files.node? entry.2 with
  | some (.file bytes) =>
      if Path.extension? entry.1 == some "log" then some (entry.1, bytes) else none
  | _ => none

def foundLogs (files : Workspace) (home : String) : List (String × Bytes) :=
  match files.find (folder home) with
  | .error _ => []
  | .ok id => (files.entriesOf id).filterMap (logOf? files)

def logs (files : Workspace) (home : String) : Keyed Bytes :=
  Keyed.ofPairs (foundLogs files home)

theorem logOf?_eq_some_iff {files : Workspace} {entry : String × NodeId} {log : String × Bytes} :
    logOf? files entry = some log <->
      (Path.extension? entry.1 == some "log") = true ∧ entry.1 = log.1 ∧
        files.node? entry.2 = some (.file log.2) := by
  rcases log with ⟨name, bytes⟩
  rw [logOf?]
  split
  · rename_i content hnode
    rw [hnode]
    split
    · rename_i hext
      simp [hext]
    · rename_i hext
      simp [hext]
  · rename_i hnode
    constructor
    · intro h
      cases h
    · rintro ⟨_hext, _hname, hfile⟩
      exact absurd hfile (hnode bytes)

theorem fst_logOf? {files : Workspace} (entry : String × NodeId) :
    (logOf? files entry).map Prod.fst =
      if isRegular files entry.2 && Path.extension? entry.1 == some "log" then some entry.1
      else none := by
  rw [logOf?, isRegular]
  cases files.node? entry.2 with
  | none => rfl
  | some node =>
      cases node with
      | file bytes =>
          dsimp only
          rw [Bool.true_and]
          split <;> rfl
      | directory parent entries => rfl
      | link target => rfl
      | sink => rfl

theorem nodup_entriesOf (files : Workspace) (id : NodeId) :
    ((files.entriesOf id).map Prod.fst).Nodup := by
  rw [entriesOf]
  split
  · rename_i entries _hid
    exact entries.nodup
  · exact List.nodup_nil

theorem map_fst_filterMap_logOf? (files : Workspace) (entries : List (String × NodeId)) :
    (entries.filterMap (logOf? files)).map Prod.fst =
      (entries.filter fun e =>
        isRegular files e.2 && Path.extension? e.1 == some "log").map Prod.fst := by
  rw [List.map_filterMap, ← List.filterMap_eq_map, List.filterMap_filter]
  apply congrArg (fun f => List.filterMap f entries)
  funext entry
  rw [fst_logOf?]
  rfl

theorem nodup_foundLogs (files : Workspace) (home : String) :
    ((foundLogs files home).map Prod.fst).Nodup := by
  rw [foundLogs]
  split
  · exact List.nodup_nil
  · rename_i id _hfind
    rw [map_fst_filterMap_logOf?]
    exact (List.filter_sublist.map Prod.fst).nodup (nodup_entriesOf files id)

theorem logNames_eq (files : Workspace) (home : String) :
    logNames files home = (logs files home).keys := by
  have hnodup := nodup_foundLogs files home
  unfold foundLogs at hnodup
  unfold logNames logs foundLogs
  generalize files.find (folder home) = found at hnodup ⊢
  cases found with
  | error e => rfl
  | ok id =>
      exact (Keyed.keys_ofPairs_congr (map_fst_filterMap_logOf? files (files.entriesOf id))
        hnodup).symm

theorem foundLogs_of_isFolder {files : Workspace} {home : String} {id parent : NodeId}
    {entries : Entries} (h : IsFolder files (folder home) id parent entries) :
    foundLogs files home = entries.toList.filterMap (logOf? files) := by
  have hentries : files.entriesOf id = entries.toList := by rw [entriesOf, h.node]
  rw [foundLogs, h.find]
  dsimp only
  rw [hentries]

theorem foundLogs_of_no_folder {files : Workspace} {home : String}
    (h : ¬exists id parent entries, IsFolder files (folder home) id parent entries) :
    foundLogs files home = [] := by
  rw [foundLogs]
  split
  · rfl
  · rename_i id hfind
    rw [entriesOf]
    split
    · rename_i parent entries hid
      exact absurd ⟨id, parent, entries, hfind, hid⟩ h
    · rfl

theorem logs_of_no_folder {files : Workspace} {home : String}
    (h : ¬exists id parent entries, IsFolder files (folder home) id parent entries) :
    logs files home = [] := by
  rw [logs, foundLogs_of_no_folder h]
  rfl

theorem mem_foundLogs_iff {files : Workspace} {home name : String} {bytes : Bytes} :
    (name, bytes) ∈ foundLogs files home <-> IsLog files home name bytes := by
  constructor
  · intro h
    by_cases hfolder : exists id parent entries, IsFolder files (folder home) id parent entries
    · rcases hfolder with ⟨id, parent, entries, hfolder⟩
      rw [foundLogs_of_isFolder hfolder] at h
      rcases List.mem_filterMap.mp h with ⟨⟨key, node⟩, hmem, hlog⟩
      rcases logOf?_eq_some_iff.mp hlog with ⟨hext, rfl, hfile⟩
      rcases isLogName_iff.mp hext with ⟨stem, hstem, hname⟩
      exact .mk hfolder (Entries.mem_iff_find?.mp hmem) hfile hname hstem
    · rw [foundLogs_of_no_folder hfolder] at h
      cases h
  · rintro ⟨hfolder, hentry, hfile, hname, hstem⟩
    rename_i id parent node entries stem
    have hext := isLogName_iff.mpr ⟨stem, hstem, hname⟩
    rw [foundLogs_of_isFolder hfolder]
    exact List.mem_filterMap.mpr ⟨(name, node), Entries.mem_iff_find?.mpr hentry,
      logOf?_eq_some_iff.mpr ⟨hext, rfl, hfile⟩⟩

theorem mem_logs_iff {files : Workspace} {home name : String} {bytes : Bytes} :
    (name, bytes) ∈ logs files home <-> IsLog files home name bytes :=
  (Keyed.perm_ofPairs (nodup_foundLogs files home)).mem_iff.trans mem_foundLogs_iff

theorem ordered_logs (files : Workspace) (home : String) : Keyed.Ordered (logs files home) :=
  Keyed.ordered_ofPairs (foundLogs files home)

/-!
## Removing files one after another
-/

theorem removeAll_of_files {files : Workspace} {folder : String} {id parent : NodeId}
    {entries : Entries} {names : List String} (h : IsFolder files folder id parent entries)
    (hnames : AreFiles files folder entries names) (hnodup : names.Nodup) :
    exists after, removeAll files (names.map (entryPath folder)) = (.ok names.length, after) ∧
      Without files folder names after := by
  induction names generalizing files entries with
  | nil => exact ⟨files, rfl, Without.refl files folder⟩
  | cons name names ih =>
      rcases List.forall_mem_cons.mp hnames with ⟨⟨hpath, next, hentry, hfile⟩, hrest⟩
      rcases List.nodup_cons.mp hnodup with ⟨hname, hnodup⟩
      rcases ih (h.dropEntry hentry hfile) (AreFiles.dropEntry h hrest hname) hnodup with
        ⟨after, hremoved, hafter⟩
      refine ⟨after, ?_, hafter.cons h hpath hentry hfile⟩
      rw [List.map_cons, removeAll, remove_entryPath h hpath hentry hfile]
      dsimp only
      rw [hremoved]
      rfl

/-!
## Showing and removing
-/

section Logs

variable {files : Workspace} {home : String}

/-- Every log can be read and removed: no path of one is too long for the system. -/
def Accessible (files : Workspace) (home : String) : Prop :=
  forall name bytes, IsLog files home name bytes ->
    (entryPath (folder home) name).utf8ByteSize ≤ pathLimit

theorem isEntryName_of_isLog (haccess : Accessible files home)
    {name : String} {bytes : Bytes} (h : IsLog files home name bytes) :
    IsEntryName (folder home) name := by
  have hshort := haccess name bytes h
  cases h with
  | mk hfolder hentry _hfile _hname _hstem =>
      exact ⟨Entries.names _ (name, _) (Entries.mem_iff_find?.mpr hentry), hshort⟩

theorem headed_eq_ok (haccess : Accessible files home) {name : String}
    {bytes : Bytes} (h : IsLog files home name bytes) :
    headed files home name = .ok ("\n--- " ++ name ++ " ---\n" ++ decodeLenient bytes) := by
  have hpath := isEntryName_of_isLog haccess h
  cases h with
  | mk hfolder hentry hfile _hname _hstem =>
      rw [headed, join_folder home hpath.no_slash]
      exact bind_eq_ok (read_entryPath hfolder hpath hentry hfile) rfl

theorem dump_eq_ok (haccess : Accessible files home) :
    dump files home = .ok (String.join ((logs files home).map fun log =>
      "\n--- " ++ log.1 ++ " ---\n" ++ decodeLenient log.2)) := by
  have hsections : (logNames files home).mapM (headed files home) =
      .ok ((logs files home).map fun log =>
        "\n--- " ++ log.1 ++ " ---\n" ++ decodeLenient log.2) := by
    rw [logNames_eq, Keyed.keys, mapM_eq_ok_iff, List.forall₂_map_left_iff,
      List.forall₂_map_right_iff, List.forall₂_same]
    intro log hlog
    exact headed_eq_ok haccess (mem_logs_iff.mp hlog)
  exact bind_eq_ok hsections rfl

theorem areFiles_logs (haccess : Accessible files home)
    {id parent : NodeId} {entries : Entries}
    (h : IsFolder files (folder home) id parent entries) :
    AreFiles files (folder home) entries ((logs files home).map Prod.fst) := by
  intro name hname
  rcases List.mem_map.mp hname with ⟨⟨key, bytes⟩, hlog, rfl⟩
  have hisLog := mem_logs_iff.mp hlog
  refine ⟨isEntryName_of_isLog haccess hisLog, ?_⟩
  cases hisLog with
  | mk hfolder hentry hfile _hname _hstem =>
      rcases h.unique hfolder with ⟨rfl, rfl, rfl⟩
      exact ⟨_, hentry, by rw [isFileNode, hfile]⟩

theorem logPaths_eq (haccess : Accessible files home) :
    logPaths files home = ((logs files home).map Prod.fst).map (entryPath (folder home)) := by
  rw [logPaths, logNames_eq]
  apply List.map_congr_left
  intro name hname
  rcases List.mem_map.mp hname with ⟨⟨key, bytes⟩, hlog, rfl⟩
  exact join_folder home (isEntryName_of_isLog haccess (mem_logs_iff.mp hlog)).no_slash

theorem cleanup_eq (haccess : Accessible files home) :
    exists after, cleanup files home = (.ok (logs files home).length, after) ∧
      Without files (folder home) ((logs files home).map Prod.fst) after := by
  rw [cleanup, logPaths_eq haccess]
  by_cases hfolder : exists id parent entries, IsFolder files (folder home) id parent entries
  · rcases hfolder with ⟨id, parent, entries, hfolder⟩
    have hnodup := Keyed.nodup_keys_of_ordered (ordered_logs files home)
    have hremoved := removeAll_of_files hfolder (areFiles_logs haccess hfolder) hnodup
    rw [List.length_map] at hremoved
    exact hremoved
  · rw [logs_of_no_folder hfolder]
    exact ⟨files, rfl, Without.refl files (folder home)⟩

/-- When the logs have been removed, there are none. -/
theorem logs_of_without (haccess : Accessible files home) {after : Workspace}
    (h : Without files (folder home) ((logs files home).map Prod.fst) after) :
    logs after home = [] := by
  apply List.eq_nil_iff_forall_not_mem.mpr
  rintro ⟨name, bytes⟩ hmem
  rcases mem_logs_iff.mp hmem with ⟨hfolder', hentry', hfile', hname, hstem⟩
  rename_i id parent node left stem
  by_cases hfolder : exists id parent entries, IsFolder files (folder home) id parent entries
  · rcases hfolder with ⟨id', parent', entries, hfolder⟩
    have hleft := h.isFolder hfolder (areFiles_logs haccess hfolder)
    rcases hfolder'.unique hleft with ⟨rfl, rfl, rfl⟩
    rw [Entries.find?_keep] at hentry'
    rcases Option.ite_none_right_eq_some.mp hentry' with ⟨hkept, hentry⟩
    -- the file was there before, and so it was one of the logs
    have hother : after.node? node = files.node? node := by
      apply h.others
      intro parent' entries' h'
      rcases hfolder.unique h' with ⟨rfl, _hparent, _hentries⟩
      cases hleft.node.symm.trans hfile'
    have hlog := IsLog.mk hfolder hentry (hother.symm.trans hfile') hname hstem
    exact of_decide_eq_true hkept (List.mem_map_of_mem (mem_logs_iff.mpr hlog))
  · have hnone := logs_of_no_folder hfolder
    rw [hnone] at h
    have hold : after.node? id = files.node? id :=
      h.others fun parent' entries' h' => hfolder ⟨id, parent', entries', h'⟩
    exact hfolder ⟨id, parent, left, (h.paths (List.forall_mem_nil _)).mp hfolder'.find,
      hold.symm.trans hfolder'.node⟩

theorem dump_of_no_logs (h : logs files home = []) : dump files home = .ok "" := by
  rw [dump, logNames_eq, h]
  rfl

theorem cleanup_of_no_logs (h : logs files home = []) : cleanup files home = (.ok 0, files) := by
  rw [cleanup, logPaths, logNames_eq, h]
  rfl

/--
What is shown of the logs is what is removed with them: the names in the order of their bytes, each
with its content. Nothing but the logs is removed, and afterwards there is none to show or remove.
-/
theorem cleanup_removes_what_dump_shows (haccess : Accessible files home) :
    exists logs : List (String × Bytes),
      (forall name bytes, (name, bytes) ∈ logs <-> IsLog files home name bytes) ∧
      logs.Pairwise (fun log later => encode log.1 < encode later.1) ∧
      (files.isDirectory (folder home) = false -> logs = []) ∧
      dump files home = .ok (String.join (logs.map fun log =>
        "\n--- " ++ log.1 ++ " ---\n" ++ decodeLenient log.2)) ∧
      exists after, cleanup files home = (.ok logs.length, after) ∧
        Without files (folder home) (logs.map Prod.fst) after ∧
        (forall log, log ∈ logs ->
          after.find (entryPath (folder home) log.1) = .error .notFound) ∧
        dump after home = .ok "" ∧ cleanup after home = (.ok 0, after) := by
  rcases cleanup_eq haccess with ⟨after, hcleanup, hafter⟩
  have hnone := logs_of_without haccess hafter
  refine ⟨logs files home, fun name bytes => mem_logs_iff,
    (ordered_logs files home).imp encode_lt_encode, ?_, dump_eq_ok haccess, after, hcleanup,
    hafter, ?_, dump_of_no_logs hnone, cleanup_of_no_logs hnone⟩
  · intro hnot
    apply logs_of_no_folder
    rintro ⟨id, parent, entries, hfolder⟩
    rw [isDirectory, hfolder.find] at hnot
    dsimp only at hnot
    rw [isDirectoryNode, hfolder.node] at hnot
    cases hnot
  · rintro ⟨name, bytes⟩ hlog
    cases mem_logs_iff.mp hlog with
    | mk hfolder _hentry _hfile _hname _hstem =>
        exact hafter.find_removed hfolder (areFiles_logs haccess hfolder)
          (List.mem_map_of_mem hlog)

end Logs

def crowdedDisk : Workspace where
  nodes := [
    .directory 0 (.mk [("home", 1), ("store", 3)]),
    .directory 0 (.mk [("logs", 2)]),
    .link "/store",
    .directory 0 (.mk [("web.log", 10), (".log", 4), ("empty.log", 6), ("b.log", 5), ("old.log", 8),
      ("notes.txt", 7)]),
    .file [104], .file [98, 255], .file [], .file [110],
    .directory 3 (.mk [("a.log", 9)]), .file [97],
    .link "b.log"]
  current := 0

theorem cleanup_of_crowded_folder :
    Accessible crowdedDisk "home" ∧
      dump crowdedDisk "home" = .ok "\n--- b.log ---\nb\uFFFD\n--- empty.log ---\n" ∧
      exists after, cleanup crowdedDisk "home" = (.ok 2, after) ∧
        (forall id, id ≠ 3 -> after.node? id = crowdedDisk.node? id) ∧
        dump after "home" = .ok "" ∧ cleanup after "home" = (.ok 0, after) := by
  have hfind : crowdedDisk.find (folder "home") = .ok 3 := by decide +kernel
  have hshort : forall entry, entry ∈ crowdedDisk.entriesOf 3 ->
      (entryPath (folder "home") entry.1).utf8ByteSize ≤ pathLimit := by decide +kernel
  have haccess : Accessible crowdedDisk "home" := by
    rintro name bytes ⟨⟨hfound, hid⟩, hentry, _hfile, _hname, _hstem⟩
    cases hfound.symm.trans hfind
    apply hshort (name, _)
    rw [entriesOf, hid]
    exact Entries.mem_iff_find?.mpr hentry
  have hdump : dump crowdedDisk "home" = .ok "\n--- b.log ---\nb\uFFFD\n--- empty.log ---\n" := by
    decide +kernel
  have hcount : (cleanup crowdedDisk "home").1 = .ok 2 := by decide +kernel
  rcases cleanup_removes_what_dump_shows haccess with
    ⟨logs, _hlogs, _hordered, _hmissing, _hdump, after, hcleanup, hafter, _hgone, hdone⟩
  rw [hcleanup] at hcount
  have htwo : logs.length = 2 := Except.ok.inj hcount
  rw [htwo] at hcleanup
  refine ⟨haccess, hdump, after, hcleanup, ?_, hdone⟩
  intro id hid
  apply hafter.others
  rintro parent entries ⟨hfound, _hid⟩
  exact hid (Except.ok.inj (hfound.symm.trans hfind))

end ServerLog
end AnalysisHarness
