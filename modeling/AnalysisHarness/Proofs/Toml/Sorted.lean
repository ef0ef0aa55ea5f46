import AnalysisHarness.Proofs.Outcome
import AnalysisHarness.Toml.Reader

/-!
# Documents have one value for each key

The tables of a document that has been read have their entries in key order, and so no key twice.
While it is being read this holds of all tables in the making, whichever way they are extended.
-/

namespace AnalysisHarness
namespace Toml

open Text

inductive Value.Sorted : Value -> Prop
  | leaf {v : Value} (h : forall entries, v ≠ .table entries) : Sorted v
  | table {entries : List (String × Value)} (hkeys : Keyed.Ordered entries)
      (hvalues : forall entry, entry ∈ entries -> Sorted entry.2) : Sorted (.table entries)

inductive Draft.Sorted : Draft -> Prop
  | value {v : Value} (h : v.Sorted) : Sorted (.value v)
  | table {mentioned dotted : Bool} {entries : Entries} (hkeys : Keyed.Ordered entries)
      (hdrafts : forall entry, entry ∈ entries -> Sorted entry.2) :
      Sorted (.table mentioned dotted entries)
  | tables {elements : List Entries}
      (hkeys : forall entries, entries ∈ elements -> Keyed.Ordered entries)
      (hdrafts :
        forall entries, entries ∈ elements -> forall entry, entry ∈ entries -> Sorted entry.2) :
      Sorted (.tables elements)

structure Entries.Sorted (entries : Entries) : Prop where
  keys : Keyed.Ordered entries
  drafts : forall entry, entry ∈ entries -> entry.2.Sorted

namespace Entries

variable {entries : Entries} {key : String} {draft : Draft}

theorem sorted_nil : Entries.Sorted [] := ⟨List.Pairwise.nil, fun _ h => nomatch h⟩

theorem sorted_put (h : entries.Sorted) (hdraft : draft.Sorted) :
    Entries.Sorted (Keyed.put key draft entries) where
  keys := Keyed.ordered_put key draft h.keys
  drafts entry hentry := by
    cases Keyed.mem_put hentry with
    | inl hnew => rw [hnew]; exact hdraft
    | inr hold => exact h.drafts entry hold

theorem sorted_filter (h : entries.Sorted) (p : String × Draft -> Bool) :
    Entries.Sorted (entries.filter p) where
  keys := List.Pairwise.filter p h.keys
  drafts entry hentry := h.drafts entry (List.mem_filter.mp hentry).1

theorem sorted_of_find? (h : entries.Sorted) (hfind : Keyed.find? entries key = some draft) :
    draft.Sorted := h.drafts (key, draft) (Keyed.mem_of_find? hfind)

theorem sorted_of_table {mentioned dotted : Bool}
    (h : (Draft.table mentioned dotted entries).Sorted) : entries.Sorted := by
  cases h with
  | table hkeys hdrafts => exact ⟨hkeys, hdrafts⟩

theorem Sorted.table (h : entries.Sorted) (mentioned dotted : Bool) :
    (Draft.table mentioned dotted entries).Sorted := .table h.keys h.drafts

theorem sorted_of_tables {elements : List Entries}
    (h : (Draft.tables (entries :: elements)).Sorted) : entries.Sorted := by
  cases h with
  | tables hkeys hdrafts =>
      exact ⟨hkeys entries List.mem_cons_self, hdrafts entries List.mem_cons_self⟩

theorem sorted_of_tables_cons {elements : List Entries}
    (h : (Draft.tables (entries :: elements)).Sorted) : (Draft.tables elements).Sorted := by
  cases h with
  | tables hkeys hdrafts =>
      refine .tables ?_ ?_
      · exact (List.forall_mem_cons.mp hkeys).2
      · exact (List.forall_mem_cons.mp hdrafts).2

theorem sorted_no_tables : (Draft.tables []).Sorted :=
  .tables (fun _ h => nomatch h) (fun _ h => nomatch h)

theorem Sorted.tables (h : entries.Sorted) {elements : List Entries}
    (helements : (Draft.tables elements).Sorted) : (Draft.tables (entries :: elements)).Sorted := by
  cases helements with
  | tables hkeys hdrafts =>
      refine .tables ?_ ?_
      · exact List.forall_mem_cons.mpr ⟨h.keys, hkeys⟩
      · exact List.forall_mem_cons.mpr ⟨h.drafts, hdrafts⟩

end Entries

/-!
## Extending tables in the making
-/

theorem Draft.sorted_insert {dotted own : Bool} {key : String} {v : Value} (hv : v.Sorted)
    (path : List String) {entries after : Entries} (hentries : entries.Sorted)
    (h : Draft.insert dotted own key v path entries = .ok after) : after.Sorted := by
  induction path generalizing dotted own entries after with
  | nil =>
      rw [Draft.insert] at h
      split at h
      · cases h
      · split at h
        · cases h
        · cases h
          exact Entries.sorted_put hentries (.value hv)
  | cons name path ih =>
      rw [Draft.insert] at h
      split at h
      · rcases exists_of_bind_eq_ok h with ⟨inner, hinner, hafter⟩
        cases hafter
        exact Entries.sorted_put hentries ((ih Entries.sorted_nil hinner).table true true)
      · cases h
      · cases h
      · rename_i last before hfind
        rcases exists_of_bind_eq_ok h with ⟨inner, hinner, hafter⟩
        cases hafter
        have htables := Entries.sorted_of_find? hentries hfind
        have hlast := ih (Entries.sorted_of_tables htables) hinner
        exact Entries.sorted_put hentries (hlast.tables (Entries.sorted_of_tables_cons htables))
      · rename_i mentioned dotted' inner hfind
        split at h
        · cases h
        · rcases exists_of_bind_eq_ok h with ⟨inner', hinner, hafter⟩
          cases hafter
          have htable := Entries.sorted_of_table (Entries.sorted_of_find? hentries hfind)
          exact Entries.sorted_put hentries ((ih htable hinner).table mentioned dotted')

/-- A change that keeps a table sorted, and gives back something with a property. -/
def KeepsSorted (P : α -> Prop) (change : Entries -> Except Fault (Entries × α)) : Prop :=
  forall entries after a, entries.Sorted -> change entries = .ok (after, a) -> after.Sorted ∧ P a

theorem Draft.keepsSorted_update {P : α -> Prop}
    {change : Entries -> Except Fault (Entries × α)} (hchange : KeepsSorted P change)
    (path : List String) : KeepsSorted P (Draft.update change path) := by
  induction path with
  | nil => exact hchange
  | cons name path ih =>
      intro entries after a hentries h
      rw [Draft.update] at h
      split at h
      · rcases exists_of_bind_eq_ok h with ⟨⟨inner, b⟩, hinner, hafter⟩
        cases hafter
        have hnew := ih [] inner a Entries.sorted_nil hinner
        exact ⟨Entries.sorted_put hentries (hnew.1.table true false), hnew.2⟩
      · cases h
      · cases h
      · rename_i last before hfind
        rcases exists_of_bind_eq_ok h with ⟨⟨inner, b⟩, hinner, hafter⟩
        cases hafter
        have htables := Entries.sorted_of_find? hentries hfind
        have hnew := ih last inner a (Entries.sorted_of_tables htables) hinner
        have hbefore := Entries.sorted_of_tables_cons htables
        exact ⟨Entries.sorted_put hentries (hnew.1.tables hbefore), hnew.2⟩
      · rename_i mentioned dotted old hfind
        rcases exists_of_bind_eq_ok h with ⟨⟨inner, b⟩, hinner, hafter⟩
        cases hafter
        have htable := Entries.sorted_of_table (Entries.sorted_of_find? hentries hfind)
        have hnew := ih old inner a htable hinner
        exact ⟨Entries.sorted_put hentries (hnew.1.table mentioned dotted), hnew.2⟩

namespace DraftDocument

theorem keepsSorted_place {table : OpenTable} (htable : table.entries.Sorted) (key : String) :
    KeepsSorted (fun _ => True) (place table key) := by
  intro parent after _unit hparent h
  rw [place] at h
  split at h
  · split at h
    · rename_i elements hfind
      cases h
      have helements := Entries.sorted_of_find? hparent hfind
      exact ⟨Entries.sorted_put hparent (htable.tables helements), trivial⟩
    · cases h
  · cases h
    exact ⟨Entries.sorted_put hparent (htable.table false false), trivial⟩

theorem keepsSorted_takeOut (key : String) : KeepsSorted Entries.Sorted (takeOut key) := by
  intro parent after taken hparent h
  rw [takeOut] at h
  split at h
  · cases h
    exact ⟨hparent, Entries.sorted_nil⟩
  · rename_i entries hfind
    cases h
    have htable := Entries.sorted_of_find? hparent hfind
    exact ⟨Entries.sorted_filter hparent _, Entries.sorted_of_table htable⟩
  · cases h

theorem keepsSorted_ensureArray (key : String) :
    KeepsSorted (fun _ => True) (ensureArray key) := by
  intro parent after _unit hparent h
  rw [ensureArray] at h
  split at h
  · cases h
    exact ⟨Entries.sorted_put hparent Entries.sorted_no_tables, trivial⟩
  · cases h
    exact ⟨hparent, trivial⟩
  · cases h

structure Sorted (d : DraftDocument) : Prop where
  root : d.root.Sorted
  current : d.current.entries.Sorted

variable {d after : DraftDocument}

theorem sorted_start : start.Sorted := ⟨Entries.sorted_nil, Entries.sorted_nil⟩

theorem sorted_insert (hd : d.Sorted) {v : Value} (hv : v.Sorted) {path : List String}
    {key : String} (h : d.insert path key v = .ok after) : after.Sorted := by
  rcases exists_of_bind_eq_ok h with ⟨entries, hinsert, hafter⟩
  cases hafter
  exact ⟨hd.root, Draft.sorted_insert hv path hd.current hinsert⟩

theorem sorted_finishCurrent (hd : d.Sorted) {root : Entries}
    (h : d.finishCurrent = .ok root) : root.Sorted := by
  rw [finishCurrent] at h
  split at h
  · cases h
    exact hd.current
  · rename_i key _hlast
    rcases exists_of_bind_eq_ok h with ⟨⟨root', u⟩, hupdate, hroot⟩
    cases hroot
    have hkeeps := Draft.keepsSorted_update (keepsSorted_place hd.current key)
      d.current.path.dropLast
    exact (hkeeps d.root root u hd.root hupdate).1

theorem sorted_openTable (hd : d.Sorted) {path : List String} {key : String}
    (h : d.openTable path key = .ok after) : after.Sorted := by
  rcases exists_of_bind_eq_ok h with ⟨root, hfinish, h⟩
  rcases exists_of_bind_eq_ok h with ⟨⟨root', entries⟩, hupdate, hafter⟩
  cases hafter
  have hkeeps := Draft.keepsSorted_update (keepsSorted_takeOut key) path
  have hboth := hkeeps root root' entries (sorted_finishCurrent hd hfinish) hupdate
  exact ⟨hboth.1, hboth.2⟩

theorem sorted_openElement (hd : d.Sorted) {path : List String} {key : String}
    (h : d.openElement path key = .ok after) : after.Sorted := by
  rcases exists_of_bind_eq_ok h with ⟨root, hfinish, h⟩
  rcases exists_of_bind_eq_ok h with ⟨⟨root', u⟩, hupdate, hafter⟩
  cases hafter
  have hkeeps := Draft.keepsSorted_update (keepsSorted_ensureArray key) path
  have hboth := hkeeps root root' u (sorted_finishCurrent hd hfinish) hupdate
  exact ⟨hboth.1, Entries.sorted_nil⟩

end DraftDocument

/-!
## Finished tables
-/

theorem exists_of_mem_finishEntries {entries : Entries} {entry : String × Value}
    (h : entry ∈ Draft.finishEntries entries) :
    exists draft, (entry.1, draft) ∈ entries ∧ entry.2 = draft.finish := by
  induction entries with
  | nil =>
      rw [Draft.finishEntries] at h
      cases h
  | cons first entries ih =>
      rcases first with ⟨key, draft⟩
      rw [Draft.finishEntries] at h
      cases List.mem_cons.mp h with
      | inl hfirst =>
          rw [hfirst]
          exact ⟨draft, List.mem_cons_self, rfl⟩
      | inr hrest =>
          rcases ih hrest with ⟨draft', hmem, hfinish⟩
          exact ⟨draft', List.mem_cons_of_mem _ hmem, hfinish⟩

theorem ordered_finishEntries {entries : Entries} (h : Keyed.Ordered entries) :
    Keyed.Ordered (Draft.finishEntries entries) := by
  induction entries with
  | nil =>
      rw [Draft.finishEntries]
      exact List.Pairwise.nil
  | cons first entries ih =>
      rcases first with ⟨key, draft⟩
      rcases List.pairwise_cons.mp h with ⟨hfirst, hrest⟩
      rw [Draft.finishEntries]
      refine List.pairwise_cons.mpr ⟨?_, ih hrest⟩
      intro entry hentry
      rcases exists_of_mem_finishEntries hentry with ⟨draft', hmem, _hfinish⟩
      exact hfirst (entry.1, draft') hmem

theorem Draft.sorted_finish {draft : Draft} (h : draft.Sorted) : draft.finish.Sorted := by
  induction h with
  | value hv =>
      rw [Draft.finish]
      exact hv
  | table hkeys _hdrafts ih =>
      rw [Draft.finish]
      refine .table (ordered_finishEntries hkeys) ?_
      intro entry hentry
      rcases exists_of_mem_finishEntries hentry with ⟨draft, hmem, hfinish⟩
      rw [hfinish]
      exact ih (entry.1, draft) hmem
  | tables _hkeys _hdrafts _ih =>
      rw [Draft.finish]
      exact .leaf fun entries => Value.noConfusion

theorem Entries.sorted_finishEntries {entries : Entries} (h : entries.Sorted) :
    (Value.table (Draft.finishEntries entries)).Sorted := by
  have hfinish := Draft.sorted_finish (h.table false false)
  rw [Draft.finish] at hfinish
  exact hfinish

/-!
## Reading

Dates and numbers are no tables. A table in braces is extended entry by entry, as a table under a
header is line by line.
-/

theorem sorted_of_integerValue {negative : Bool} {n : Nat} {v : Value}
    (h : integerValue negative n = .ok v) : v.Sorted := by
  rw [integerValue] at h
  split at h
  · split at h
    · cases h
      exact .leaf fun entries => Value.noConfusion
    · cases h
  · split at h
    · cases h
      exact .leaf fun entries => Value.noConfusion
    · cases h

theorem sorted_of_floatValue {x : Binary64} {v : Value} (h : floatValue x = .ok v) :
    v.Sorted := by
  rw [floatValue] at h
  split at h
  · cases h
  · cases h
    exact .leaf fun entries => Value.noConfusion

theorem sorted_of_readBased {base : Nat} {isDigit : Char -> Bool} {cs rest : List Char}
    {v : Value} (h : readBased base isDigit cs = .ok (v, rest)) : v.Sorted := by
  rcases exists_of_bind_eq_ok h with ⟨digits, _hdigits, h⟩
  rcases exists_of_bind_eq_ok h with ⟨value, hvalue, h⟩
  cases h
  exact sorted_of_integerValue hvalue

theorem sorted_of_readDecimal {cs rest : List Char} {v : Value}
    (h : readDecimal cs = .ok (v, rest)) : v.Sorted := by
  rw [readDecimal] at h
  rcases exists_of_bind_eq_ok h with ⟨⟨whole, afterWhole⟩, _hwhole, h⟩
  rcases exists_of_bind_eq_ok h with ⟨⟨fraction, afterFraction⟩, _hfraction, h⟩
  rcases exists_of_bind_eq_ok h with ⟨⟨exponent, afterExponent⟩, _hexponent, h⟩
  dsimp only at h
  split at h
  · rcases exists_of_bind_eq_ok h with ⟨value, hvalue, h⟩
    cases h
    exact sorted_of_integerValue hvalue
  · rcases exists_of_bind_eq_ok h with ⟨value, hvalue, h⟩
    cases h
    exact sorted_of_floatValue hvalue

theorem sorted_of_readNumber {cs rest : List Char} {v : Value}
    (h : readNumber cs = .ok (v, rest)) : v.Sorted := by
  unfold readNumber at h
  dsimp only at h
  split at h
  · cases h
    exact .leaf fun entries => Value.noConfusion
  · cases h
    exact .leaf fun entries => Value.noConfusion
  · split at h
    · exact sorted_of_readBased h
    · exact sorted_of_readBased h
    · exact sorted_of_readBased h
    · exact sorted_of_readDecimal h

theorem sorted_of_readScalar {cs rest : List Char} {v : Value}
    (h : readScalar cs = .ok (v, rest)) : v.Sorted := by
  rw [readScalar] at h
  split at h
  · rcases exists_of_bind_eq_ok h with ⟨⟨moment, after⟩, _hmoment, h⟩
    cases h
    exact .leaf fun entries => Value.noConfusion
  · exact sorted_of_readNumber h

def ReadsSorted (fuel : Nat) : Prop :=
  forall depth cs v rest, readValue depth fuel cs = .ok (v, rest) -> v.Sorted

theorem sorted_of_readEntries {fuel : Nat}
    (hread : forall smaller, smaller < fuel -> ReadsSorted smaller) {depth : Nat}
    {entries after : Entries} {cs rest : List Char} (hentries : entries.Sorted)
    (h : readEntries depth fuel entries cs = .ok (after, rest)) : after.Sorted := by
  induction fuel generalizing entries cs with
  | zero =>
      rw [readEntries] at h
      cases h
  | succ fuel ih =>
      rw [readEntries] at h
      rcases exists_of_bind_eq_ok h with ⟨⟨key, afterKey⟩, _hkey, h⟩
      dsimp only at h
      split at h
      · rcases exists_of_bind_eq_ok h with ⟨⟨value, afterValue⟩, hvalue, h⟩
        rcases exists_of_bind_eq_ok h with ⟨extended, hinsert, h⟩
        have hsorted := hread fuel (Nat.lt_succ_self fuel) depth _ value afterValue hvalue
        have hextended := Draft.sorted_insert hsorted key.path hentries hinsert
        split at h
        · exact ih (fun smaller hlt => hread smaller (Nat.lt_succ_of_lt hlt)) hextended h
        · cases h
          exact hextended
        · cases h
      · cases h

theorem readsSorted (fuel : Nat) : ReadsSorted fuel := by
  induction fuel using Nat.strongRecOn with
  | ind fuel ih =>
      intro depth cs v rest h
      cases fuel with
      | zero =>
          rw [readValue] at h
          cases h
      | succ fuel =>
          unfold readValue at h
          split at h
          · cases h
          · split at h
            · rcases exists_of_bind_eq_ok h with ⟨⟨text, after⟩, _htext, h⟩
              cases h
              exact .leaf fun entries => Value.noConfusion
            · split at h
              · split at h
                · cases h
                · rcases exists_of_bind_eq_ok h with ⟨⟨items, after⟩, _hitems, h⟩
                  cases h
                  exact .leaf fun entries => Value.noConfusion
              · split at h
                · split at h
                  · cases h
                  · split at h
                    · cases h
                      exact .table List.Pairwise.nil fun _ h => nomatch h
                    · rcases exists_of_bind_eq_ok h with ⟨⟨entries, after⟩, hentries, h⟩
                      cases h
                      have hread := fun smaller hlt => ih smaller (Nat.lt_succ_of_lt hlt)
                      exact Entries.sorted_finishEntries
                        (sorted_of_readEntries hread Entries.sorted_nil hentries)
                · split at h
                  · cases h
                    exact .leaf fun entries => Value.noConfusion
                  · cases h
                    exact .leaf fun entries => Value.noConfusion
                  · exact sorted_of_readScalar h

theorem sorted_of_readLines {fuel : Nat} {d after : DraftDocument} {cs : List Char}
    (hd : d.Sorted) (h : readLines fuel d cs = .ok after) : after.Sorted := by
  induction fuel generalizing d cs with
  | zero =>
      rw [readLines] at h
      cases h
  | succ fuel ih =>
      rw [readLines] at h
      split at h
      · cases h
        exact hd
      · rcases exists_of_bind_eq_ok h with ⟨rest, _hend, h⟩
        exact ih hd h
      · rcases exists_of_bind_eq_ok h with ⟨⟨key, rest⟩, _hkey, h⟩
        dsimp only at h
        split at h
        · rcases exists_of_bind_eq_ok h with ⟨rest, _hend, h⟩
          rcases exists_of_bind_eq_ok h with ⟨d', hopen, h⟩
          exact ih (DraftDocument.sorted_openElement hd hopen) h
        · cases h
      · rcases exists_of_bind_eq_ok h with ⟨⟨key, rest⟩, _hkey, h⟩
        dsimp only at h
        split at h
        · rcases exists_of_bind_eq_ok h with ⟨rest, _hend, h⟩
          rcases exists_of_bind_eq_ok h with ⟨d', hopen, h⟩
          exact ih (DraftDocument.sorted_openTable hd hopen) h
        · cases h
      · split at h
        · exact ih hd h
        · rcases exists_of_bind_eq_ok h with ⟨⟨key, rest⟩, _hkey, h⟩
          dsimp only at h
          split at h
          · rcases exists_of_bind_eq_ok h with ⟨⟨value, rest⟩, hvalue, h⟩
            rcases exists_of_bind_eq_ok h with ⟨rest, _hend, h⟩
            rcases exists_of_bind_eq_ok h with ⟨d', hinsert, h⟩
            have hsorted := readsSorted _ 0 _ value _ hvalue
            exact ih (DraftDocument.sorted_insert hd hsorted hinsert) h
          · cases h

/-- A document is a table with its entries in key order, as are the tables in it. -/
theorem exists_sorted_table_of_read {text : String} {v : Value} (h : Value.read text = .ok v) :
    exists entries, v = .table entries ∧ v.Sorted := by
  rcases exists_of_bind_eq_ok (mapError_eq_ok_iff.mp h) with ⟨d, hlines, hread⟩
  rcases exists_of_bind_eq_ok hread with ⟨root, hfinish, hsame⟩
  cases hsame
  have hd := sorted_of_readLines DraftDocument.sorted_start hlines
  have hroot := DraftDocument.sorted_finishCurrent hd hfinish
  exact ⟨Draft.finishEntries root, rfl, Entries.sorted_finishEntries hroot⟩

end Toml
end AnalysisHarness
