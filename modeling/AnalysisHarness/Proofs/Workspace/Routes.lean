import AnalysisHarness.Proofs.Text.Splitting
import AnalysisHarness.Proofs.Workspace.Write

/-!
# Routes

Where a path leads to a node it does so by a route through directories and over links. A route goes
on from the node where it ends, and it is there on another disk too if that has kept the
directories and links on the way.
-/

namespace AnalysisHarness
namespace Workspace

open Text

/-!
## Single components
-/

section Steps

variable {w : Workspace} {id parent next : NodeId} {entries : Entries} {name : String}

theorem walk_nil (w : Workspace) (follow : Bool) (links : Nat) (id : NodeId) :
    w.walk follow links id [] = .ok (.found id) := by
  cases links <;> rfl

theorem walk_of_not_directory
    (hid : forall parent entries, w.node? id ≠ some (.directory parent entries)) (follow : Bool)
    (links : Nat) (name : String) (rest : List String) :
    w.walk follow links id (name :: rest) = .error .notDirectory := by
  cases links with
  | zero => rw [walk, walkWith_cons_of_not_directory hid]
  | succ links => rw [walk, walkWith_cons_of_not_directory hid]

theorem walk_stay (hid : w.node? id = some (.directory parent entries))
    (hname : name = "" ∨ name = ".") (follow : Bool) (links : Nat) (rest : List String) :
    w.walk follow links id (name :: rest) = w.walk follow links id rest := by
  cases links with
  | zero => rw [walk, walkWith_cons_of_directory hid, if_pos hname]
  | succ links => rw [walk, walkWith_cons_of_directory hid, if_pos hname]

theorem walk_up (hid : w.node? id = some (.directory parent entries)) (follow : Bool)
    (links : Nat) (rest : List String) :
    w.walk follow links id (".." :: rest) = w.walk follow links parent rest := by
  have hother : ¬(".." = "" ∨ ".." = ".") := by decide
  cases links with
  | zero => rw [walk, walkWith_cons_of_directory hid, if_neg hother, if_pos rfl]
  | succ links => rw [walk, walkWith_cons_of_directory hid, if_neg hother, if_pos rfl]

theorem walk_component (hid : w.node? id = some (.directory parent entries))
    (hname : IsComponent name) (follow : Bool) (links : Nat) (rest : List String) :
    w.walk follow links id (name :: rest) =
      match entries.find? name with
      | none => if rest.isEmpty then .ok (.vacant id name) else .error .notFound
      | some next =>
          match w.node? next with
          | some (.link target) =>
              if rest.isEmpty && !follow then .ok (.found next)
              else
                match links with
                | 0 => .error .tooManyLinks
                | links + 1 =>
                    w.walk follow links (if isAbsolute target then 0 else id)
                      (components target ++ rest)
          | _ => w.walk follow links next rest := by
  have hplain : ¬(name = "" ∨ name = ".") := not_or.mpr ⟨hname.ne_empty, hname.ne_dot⟩
  cases links with
  | zero =>
      rw [walk, walkWith_cons_of_directory hid, if_neg hplain, if_neg hname.ne_dots]
      exact if_neg (Nat.not_lt.mpr hname.short)
  | succ links =>
      rw [walk, walkWith_cons_of_directory hid, if_neg hplain, if_neg hname.ne_dots]
      exact if_neg (Nat.not_lt.mpr hname.short)

theorem walk_too_long (hid : w.node? id = some (.directory parent entries))
    (hplain : ¬(name = "" ∨ name = ".")) (hdots : name ≠ "..")
    (hlong : nameLimit < name.utf8ByteSize) (follow : Bool) (links : Nat) (rest : List String) :
    w.walk follow links id (name :: rest) = .error .nameTooLong := by
  cases links with
  | zero =>
      rw [walk, walkWith_cons_of_directory hid, if_neg hplain, if_neg hdots, if_pos hlong]
  | succ links =>
      rw [walk, walkWith_cons_of_directory hid, if_neg hplain, if_neg hdots, if_pos hlong]

theorem walk_into (hid : w.node? id = some (.directory parent entries))
    (hname : IsComponent name) (hentry : entries.find? name = some next)
    (hlink : forall target, w.node? next ≠ some (.link target)) (follow : Bool) (links : Nat)
    (rest : List String) :
    w.walk follow links id (name :: rest) = w.walk follow links next rest := by
  rw [walk_component hid hname, hentry]
  dsimp only
  split
  · rename_i target heq
    exact absurd heq (hlink target)
  · rfl

theorem walk_across (hid : w.node? id = some (.directory parent entries))
    (hname : IsComponent name) (hentry : entries.find? name = some next) {target : String}
    (hlink : w.node? next = some (.link target)) {follow : Bool} {rest : List String}
    (hgo : rest ≠ [] ∨ follow = true) (links : Nat) :
    w.walk follow (links + 1) id (name :: rest) =
      w.walk follow links (if isAbsolute target then 0 else id) (components target ++ rest) := by
  have hnot : (rest.isEmpty && !follow) ≠ true := by
    rcases hgo with hrest | rfl
    · simp [hrest]
    · simp
  rw [walk_component hid hname, hentry]
  simp only [hlink]
  rw [if_neg hnot]

end Steps

/-!
## Routes
-/

/-- Components that lead from a node to another one, over at most so many links. -/
inductive Route (w : Workspace) : Nat -> NodeId -> List String -> NodeId -> Prop
  | here (links : Nat) (id : NodeId) : Route w links id [] id
  | stay {links : Nat} {id parent target : NodeId} {entries : Entries} {name : String}
      {rest : List String} (hid : w.node? id = some (.directory parent entries))
      (hname : name = "" ∨ name = ".") (h : Route w links id rest target) :
      Route w links id (name :: rest) target
  | up {links : Nat} {id parent target : NodeId} {entries : Entries} {rest : List String}
      (hid : w.node? id = some (.directory parent entries)) (h : Route w links parent rest target) :
      Route w links id (".." :: rest) target
  | into {links : Nat} {id parent next target : NodeId} {entries : Entries} {name : String}
      {rest : List String} (hid : w.node? id = some (.directory parent entries))
      (hname : IsComponent name) (hentry : entries.find? name = some next)
      (hlink : forall text, w.node? next ≠ some (.link text)) (h : Route w links next rest target) :
      Route w links id (name :: rest) target
  | across {links : Nat} {id parent next target : NodeId} {entries : Entries}
      {name text : String} {rest : List String}
      (hid : w.node? id = some (.directory parent entries)) (hname : IsComponent name)
      (hentry : entries.find? name = some next) (hlink : w.node? next = some (.link text))
      (h : Route w links (if isAbsolute text then 0 else id) (components text ++ rest) target) :
      Route w (links + 1) id (name :: rest) target

variable {w : Workspace} {links : Nat} {id target : NodeId} {names : List String}

theorem Route.walk_append (h : Route w links id names target) {follow : Bool}
    {more : List String} (hgo : more ≠ [] ∨ follow = true) :
    exists left, w.walk follow links id (names ++ more) = w.walk follow left target more := by
  induction h with
  | here links id => exact ⟨links, rfl⟩
  | stay hid hname _h ih =>
      rcases ih with ⟨left, hleft⟩
      exact ⟨left, (walk_stay hid hname follow _ _).trans hleft⟩
  | up hid _h ih =>
      rcases ih with ⟨left, hleft⟩
      exact ⟨left, (walk_up hid follow _ _).trans hleft⟩
  | into hid hname hentry hlink _h ih =>
      rcases ih with ⟨left, hleft⟩
      exact ⟨left, (walk_into hid hname hentry hlink follow _ _).trans hleft⟩
  | @across links id parent next target entries name text rest hid hname hentry hlink _h ih =>
      rcases ih with ⟨left, hleft⟩
      have hmore : rest ++ more ≠ [] ∨ follow = true :=
        hgo.imp_left fun hne hnil => hne (List.append_eq_nil_iff.mp hnil).2
      refine ⟨left, (walk_across hid hname hentry hlink hmore _).trans ?_⟩
      rw [← List.append_assoc]
      exact hleft

theorem Route.walk_eq (h : Route w links id names target) :
    w.walk true links id names = .ok (.found target) := by
  have hgo : ([] : List String) ≠ [] ∨ true = true := Or.inr rfl
  rcases h.walk_append hgo with ⟨left, hleft⟩
  rw [List.append_nil] at hleft
  rw [hleft, walk_nil]

/-- There is no other way to get to a node: what is found is found by a route. -/
theorem route_of_walk (h : w.walk true links id names = .ok (.found target)) :
    Route w links id names target := by
  -- the links first, since a link starts over with other components, and then these
  induction links using Nat.strongRecOn generalizing id names with
  | ind links ihl =>
      induction names generalizing id with
      | nil =>
          rw [walk_nil] at h
          cases h
          exact .here _ _
      | cons name rest ih =>
          by_cases hid : exists parent entries, w.node? id = some (.directory parent entries)
          · rcases hid with ⟨parent, entries, hid⟩
            by_cases hplain : name = "" ∨ name = "."
            · rw [walk_stay hid hplain] at h
              exact .stay hid hplain (ih h)
            by_cases hdots : name = ".."
            · rw [hdots, walk_up hid] at h
              rw [hdots]
              exact .up hid (ih h)
            by_cases hlong : nameLimit < name.utf8ByteSize
            · rw [walk_too_long hid hplain hdots hlong] at h
              cases h
            have hname : IsComponent name :=
              ⟨fun heq => hplain (Or.inl heq), fun heq => hplain (Or.inr heq), hdots,
                Nat.le_of_not_lt hlong⟩
            cases hentry : entries.find? name with
            | none =>
                rw [walk_component hid hname, hentry] at h
                dsimp only at h
                split at h <;> cases h
            | some next =>
                by_cases hlink : exists text, w.node? next = some (.link text)
                · rcases hlink with ⟨text, hlink⟩
                  cases links with
                  | zero =>
                      rw [walk_component hid hname, hentry] at h
                      simp only [hlink, Bool.not_true, Bool.and_false] at h
                      cases h
                  | succ links =>
                      rw [walk_across hid hname hentry hlink (Or.inr rfl)] at h
                      exact .across hid hname hentry hlink (ihl links (Nat.lt_succ_self links) h)
                · have hlink' : forall text, w.node? next ≠ some (.link text) :=
                    fun text heq => hlink ⟨text, heq⟩
                  rw [walk_into hid hname hentry hlink'] at h
                  exact .into hid hname hentry hlink' (ih h)
          · rw [walk_of_not_directory fun parent entries heq => hid ⟨parent, entries, heq⟩] at h
            cases h

theorem Route.eq_of_file {bytes : Bytes} (h : Route w links id names target)
    (hid : w.node? id = some (.file bytes)) : target = id := by
  cases h with
  | here links id => rfl
  | stay hdirectory _hname _h =>
      rw [hid] at hdirectory
      cases hdirectory
  | up hdirectory _h =>
      rw [hid] at hdirectory
      cases hdirectory
  | into hdirectory _hname _hentry _hlink _h =>
      rw [hid] at hdirectory
      cases hdirectory
  | across hdirectory _hname _hentry _hlink _h =>
      rw [hid] at hdirectory
      cases hdirectory

theorem Route.mono {v : Workspace} (h : Route w links id names target)
    (hdirectories : forall id parent entries, w.node? id = some (.directory parent entries) ->
      exists left, v.node? id = some (.directory parent left) ∧
        forall name next, entries.find? name = some next ->
          left.find? name = some next ∨ next ≠ target ∧ w.isFileNode next = true)
    (hlinks : forall id text, v.node? id = some (.link text) <-> w.node? id = some (.link text)) :
    Route v links id names target := by
  induction h with
  | here links id => exact .here links id
  | stay hid hname _h ih =>
      rcases hdirectories _ _ _ hid with ⟨left, hleft, _hfind⟩
      exact .stay hleft hname (ih hdirectories)
  | up hid _h ih =>
      rcases hdirectories _ _ _ hid with ⟨left, hleft, _hfind⟩
      exact .up hleft (ih hdirectories)
  | into hid hname hentry hlink h ih =>
      rcases hdirectories _ _ _ hid with ⟨left, hleft, hfind⟩
      rcases hfind _ _ hentry with hfind | ⟨hne, hfile⟩
      · exact .into hleft hname hfind (fun text heq => hlink text ((hlinks _ text).mp heq))
          (ih hdirectories)
      · rcases exists_bytes_of_isFileNode hfile with ⟨bytes, hbytes⟩
        exact absurd (h.eq_of_file hbytes).symm hne
  | across hid hname hentry hlink _h ih =>
      rcases hdirectories _ _ _ hid with ⟨left, hleft, hfind⟩
      rcases hfind _ _ hentry with hfind | ⟨_hne, hfile⟩
      · exact .across hleft hname hfind ((hlinks _ _).mpr hlink) (ih hdirectories)
      · rw [isFileNode, hlink] at hfile
        cases hfile

structure IsPath (path : String) : Prop where
  no_nul : '\x00' ∉ path.toList
  ne_empty : path ≠ ""
  short : path.utf8ByteSize ≤ pathLimit

def startOf (w : Workspace) (path : String) : NodeId := if isAbsolute path then 0 else w.current

theorem locateFrom_of_isPath {path : String} (hpath : IsPath path) (follow : Bool) :
    w.locateFrom w.current follow path =
      w.walk follow linkLimit (w.startOf path) (components path) := by
  have hnul : ¬path.toList.contains '\x00' = true := by
    rw [List.contains_iff_mem]
    exact hpath.no_nul
  rw [locateFrom, if_neg hnul, if_neg hpath.ne_empty, if_neg (Nat.not_lt.mpr hpath.short)]
  rfl

theorem isPath_of_locateFrom {path : String} {start : NodeId} {follow : Bool} {place : Place}
    (h : w.locateFrom start follow path = .ok place) : IsPath path := by
  unfold locateFrom at h
  split at h
  · cases h
  · rename_i hnul
    split at h
    · cases h
    · rename_i hempty
      split at h
      · cases h
      · rename_i hlong
        exact ⟨mt List.contains_iff_mem.mpr hnul, hempty, Nat.le_of_not_lt hlong⟩

/-- A node is found by a path exactly if a route leads there. -/
theorem find_eq_ok_iff_route {path : String} :
    w.find path = .ok id <->
      IsPath path ∧ Route w linkLimit (w.startOf path) (components path) id := by
  rw [find_eq_ok_iff]
  constructor
  · intro h
    have hpath := isPath_of_locateFrom h
    rw [locateFrom_of_isPath hpath] at h
    exact ⟨hpath, route_of_walk h⟩
  · rintro ⟨hpath, hroute⟩
    rw [locateFrom_of_isPath hpath]
    exact hroute.walk_eq

end Workspace
end AnalysisHarness
