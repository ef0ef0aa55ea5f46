import AnalysisHarness.Text.Keyed

/-!
# Entries of a directory

A directory has names, each of them once, for the nodes that are in it. The order in which a system
gives the entries says nothing. Names are texts: names that are no text are left out of account.
-/

namespace AnalysisHarness

open Text

abbrev NodeId := Nat

namespace Workspace

/-- How many bytes a name may have. -/
def nameLimit : Nat := 255

structure IsComponent (name : String) : Prop where
  ne_empty : name ≠ ""
  ne_dot : name ≠ "."
  ne_dots : name ≠ ".."
  short : name.utf8ByteSize ≤ nameLimit

/-- A name that a directory can have an entry under. -/
structure IsFileName (name : String) : Prop extends IsComponent name where
  no_slash : '/' ∉ name.toList
  no_nul : '\x00' ∉ name.toList

instance (name : String) : Decidable (IsFileName name) :=
  decidable_of_iff ((name ≠ "" ∧ name ≠ "." ∧ name ≠ ".." ∧ name.utf8ByteSize ≤ nameLimit) ∧
      '/' ∉ name.toList ∧ '\x00' ∉ name.toList)
    ⟨fun ⟨⟨hempty, hdot, hdots, hshort⟩, hslash, hnul⟩ =>
        ⟨⟨hempty, hdot, hdots, hshort⟩, hslash, hnul⟩,
      fun h => ⟨⟨h.ne_empty, h.ne_dot, h.ne_dots, h.short⟩, h.no_slash, h.no_nul⟩⟩

/-- What is in a directory, in any order. -/
structure Entries where
  toList : List (String × NodeId)
  nodup : (toList.map Prod.fst).Nodup := by decide
  names : forall entry, entry ∈ toList -> IsFileName entry.1 := by decide
  deriving DecidableEq, Repr

namespace Entries

def empty : Entries where
  toList := []
  names := nofun

instance : Inhabited Entries := ⟨empty⟩

def find? (entries : Entries) (name : String) : Option NodeId :=
  Keyed.find? entries.toList name

def keep (p : String -> Bool) (entries : Entries) : Entries where
  toList := entries.toList.filter fun entry => p entry.1
  nodup := List.Pairwise.sublist (List.filter_sublist.map Prod.fst) entries.nodup
  names entry hentry := entries.names entry (List.mem_filter.mp hentry).1

/-- The entries with one more, in place of any under its name, if this is a name of a file. -/
def put (name : String) (id : NodeId) (entries : Entries) : Entries :=
  if hname : IsFileName name then
    { toList := (name, id) :: (entries.keep (· != name)).toList
      nodup := by
        refine List.nodup_cons.mpr ⟨?_, (entries.keep (· != name)).nodup⟩
        intro hmem
        rcases List.mem_map.mp hmem with ⟨entry, hentry, heq⟩
        exact bne_iff_ne.mp (List.mem_filter.mp hentry).2 heq
      names := List.forall_mem_cons.mpr ⟨hname, (entries.keep (· != name)).names⟩ }
  else entries

theorem ext {entries other : Entries} (h : entries.toList = other.toList) : entries = other := by
  rcases entries with ⟨list, _hnodup, _hnames⟩
  cases h
  rfl

theorem keep_true (entries : Entries) : entries.keep (fun _ => true) = entries :=
  ext (List.filter_eq_self.mpr fun _ _ => rfl)

theorem keep_keep (p q : String -> Bool) (entries : Entries) :
    (entries.keep p).keep q = entries.keep fun name => q name && p name :=
  ext List.filter_filter

theorem find?_keep (p : String -> Bool) (entries : Entries) (name : String) :
    (entries.keep p).find? name = if p name then entries.find? name else none :=
  Keyed.find?_filter_keys entries.toList p name

theorem find?_put {name : String} (hname : IsFileName name) (id : NodeId) (entries : Entries)
    (key : String) :
    (entries.put name id).find? key = if key = name then some id else entries.find? key := by
  rw [put, dif_pos hname]
  change (if name = key then some id else (entries.keep (· != name)).find? key) = _
  rw [find?_keep]
  by_cases hkey : key = name
  · rw [if_pos hkey.symm, if_pos hkey]
  · rw [if_neg (Ne.symm hkey), if_neg hkey, if_pos (bne_iff_ne.mpr hkey)]

theorem find?_put_of_ne {name key : String} (hkey : key ≠ name) (id : NodeId) (entries : Entries) :
    (entries.put name id).find? key = entries.find? key := by
  by_cases hname : IsFileName name
  · rw [find?_put hname, if_neg hkey]
  · rw [put, dif_neg hname]

theorem mem_iff_find? {entries : Entries} {name : String} {id : NodeId} :
    (name, id) ∈ entries.toList <-> entries.find? name = some id :=
  ⟨Keyed.find?_of_mem entries.nodup, Keyed.mem_of_find?⟩

end Entries
end Workspace
end AnalysisHarness
