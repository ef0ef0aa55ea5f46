import AnalysisHarness.Proofs.Config.Overlay
import Mathlib.Data.List.Induction
import Mathlib.Data.List.TakeWhile

/-!
# Sections of any shape over each other

A section may be a table of its fields or an array of them in a fixed order, and the documents may
differ in this. Tables are merged; anything else replaces what is below it, and is replaced by what
is above it. So a field comes from the highest document that sets it, of those that are not hidden.
-/

namespace AnalysisHarness
namespace Config

open Text Toml

def fieldAt? (place : Nat) (key : String) (v : Value) : Option Value :=
  match Fields.ofValue v with
  | .ok fields => fields.find? place key
  | .error _ => none

def found? (name : String) (place : Nat) (key : String) (document : Value) : Option Value := do
  let v ← document.entry? name
  fieldAt? place key v

def sectionsOf (name : String) (documents : List Value) : List Value :=
  documents.reverse.filterMap fun document => document.entry? name

/-- The sections that are not hidden: the highest one, and below a table the tables next to it. -/
def visible : List Value -> List Value
  | [] => []
  | v :: lower => if isTable v then v :: lower.takeWhile isTable else [v]

/-- The value of a field in the highest section that sets it, of those that are not hidden. -/
def winner? (name : String) (place : Nat) (key : String) (documents : List Value) :
    Option Value :=
  (visible (sectionsOf name documents)).findSome? (fieldAt? place key)

def merged? : List Value -> Option Value
  | [] => none
  | v :: lower => overlay? (merged? lower) (some v)

section Merging

variable {name key : String} {place : Nat} {v : Value} {sections documents : List Value}

theorem fieldAt?_overlayEntries {upper : Keyed Value} (h : (Value.table upper).Sorted)
    (entries : Keyed Value) :
    fieldAt? place key (.table (overlayEntries entries upper)) =
      overlay? (fieldAt? place key (.table entries)) (fieldAt? place key (.table upper)) := by
  cases h with
  | leaf h => exact absurd rfl (h upper)
  | table hkeys _hvalues => exact find?_overlayEntries hkeys entries key

/-- Sections come to a field of one that is not hidden, unless they come to a table there. -/
theorem fieldAt?_merged? (hsorted : forall v, v ∈ sections -> v.Sorted)
    (hplain : forall w, (merged? sections).bind (fieldAt? place key) = some w ->
      isTable w = false) :
    (merged? sections).bind (fieldAt? place key) =
      (visible sections).findSome? (fieldAt? place key) := by
  induction sections with
  | nil => rfl
  | cons v lower ih =>
      cases hv : isTable v with
      | false => simp [merged?, overlay?_some _ hv, visible, hv]
      | true =>
          rcases exists_table_of_isTable hv with ⟨upper, rfl⟩
          have hupper : (Value.table upper).Sorted := hsorted _ List.mem_cons_self
          -- what becomes of the fields below depends on the next section
          cases lower with
          | nil => simp [merged?, overlay?, visible, hv]
          | cons u rest =>
              rcases exists_overlay? (merged? rest) u with ⟨base, hbase, hshape⟩
              rw [merged?, merged?, hbase, overlay?] at hplain ⊢
              cases hu : isTable u with
              | false =>
                  -- what is below the table is hidden by its neighbour
                  rw [overlay_table_of_not_table (hshape.trans hu)]
                  simp [visible, hv, hu]
              | true =>
                  rcases exists_table_of_isTable (hshape.trans hu) with ⟨under, rfl⟩
                  have hbelow : visible (.table upper :: u :: rest) =
                      .table upper :: visible (u :: rest) := by
                    simp [visible, hv, hu]
                  simp only [overlay, Option.bind_some, fieldAt?_overlayEntries hupper]
                    at hplain ⊢
                  rw [hbelow, List.findSome?_cons]
                  cases hfield : fieldAt? place key (.table upper) with
                  | none =>
                      rw [hfield] at hplain
                      have hlower := ih (fun w hw => hsorted w (List.mem_cons_of_mem _ hw))
                      rw [merged?, hbase] at hlower
                      exact hlower hplain
                  | some w =>
                      rw [hfield] at hplain
                      exact overlay?_some_of_plain hplain

/-!
## Documents
-/

def Tables (documents : List Value) : Prop :=
  forall document, document ∈ documents ->
    exists entries, document = .table entries ∧ document.Sorted

theorem exists_of_mem_sectionsOf (h : v ∈ sectionsOf name documents) :
    exists document, document ∈ documents ∧ document.entry? name = some v := by
  rcases List.mem_filterMap.mp h with ⟨document, hmem, hentry⟩
  exact ⟨document, List.mem_reverse.mp hmem, hentry⟩

theorem sorted_of_mem_sectionsOf (h : Tables documents) (hv : v ∈ sectionsOf name documents) :
    v.Sorted := by
  rcases exists_of_mem_sectionsOf hv with ⟨document, hmem, hentry⟩
  rcases h document hmem with ⟨entries, rfl, hsorted⟩
  cases hsorted with
  | leaf h => exact absurd rfl (h entries)
  | table _hkeys hvalues => exact hvalues (name, v) (Keyed.mem_of_find? hentry)

theorem section_overlay {upper : Keyed Value} (h : (Value.table upper).Sorted) {base : Value}
    (hbase : isTable base = true) :
    Value.entry? name (overlay base (.table upper)) =
      overlay? (base.entry? name) (Keyed.find? upper name) := by
  rcases exists_table_of_isTable hbase with ⟨entries, rfl⟩
  rw [overlay]
  cases h with
  | leaf h => exact absurd rfl (h upper)
  | table hkeys _hvalues => exact find?_overlayEntries hkeys entries name

theorem section_foldl_overlay (h : Tables documents) :
    Value.entry? name (documents.foldl overlay (.table [])) =
        merged? (sectionsOf name documents) ∧
      isTable (documents.foldl overlay (.table [])) = true := by
  induction documents using List.reverseRecOn with
  | nil => exact ⟨rfl, rfl⟩
  | append_singleton documents layer ih =>
      have hlower : Tables documents :=
        fun document hmem => h document (List.mem_append_left [layer] hmem)
      rcases ih hlower with ⟨hsection, htable⟩
      rcases h layer List.mem_concat_self with ⟨upper, rfl, hsorted⟩
      rw [List.foldl_append, List.foldl_cons, List.foldl_nil, section_overlay hsorted htable,
        hsection, sectionsOf, sectionsOf, List.reverse_append, List.reverse_singleton,
        List.singleton_append, List.filterMap_cons]
      refine ⟨?_, isTable_overlay _ rfl⟩
      rw [Value.entry?]
      cases Keyed.find? upper name with
      | none => rfl
      | some v => rfl

/-- A field of documents over each other is that of the winner, unless they come to a table
there. -/
theorem found?_foldl_overlay (h : Tables documents)
    (hplain : forall w,
      found? name place key (documents.foldl overlay (.table [])) = some w -> isTable w = false) :
    found? name place key (documents.foldl overlay (.table [])) =
      winner? name place key documents := by
  rw [found?, Option.bind_eq_bind, (section_foldl_overlay h).1] at hplain ⊢
  exact fieldAt?_merged? (fun v hv => sorted_of_mem_sectionsOf h hv) hplain

/-!
## Tables alone
-/

theorem visible_of_tables (h : forall v, v ∈ sections -> isTable v = true) :
    visible sections = sections := by
  cases sections with
  | nil => rfl
  | cons v lower =>
      have hlower : lower.takeWhile isTable = lower :=
        List.takeWhile_eq_self_iff.mpr (fun u hu => h u (List.mem_cons_of_mem v hu))
      rw [visible, if_pos (h v List.mem_cons_self), hlower]

theorem found?_eq_field? {document : Value} (h : leadsToTable name document = true) :
    found? name place key document = field? name key document := by
  rw [leadsToTable] at h
  rw [found?, field?, sectionOf]
  cases hentry : document.entry? name with
  | none => rfl
  | some v =>
      rw [hentry] at h
      rcases exists_table_of_isTable h with ⟨entries, rfl⟩
      rfl

theorem findSome?_sections
    (h : forall document, document ∈ documents -> leadsToTable name document = true) :
    List.findSome? (fieldAt? place key) (documents.filterMap fun document => document.entry? name) =
      documents.findSome? (field? name key) := by
  induction documents with
  | nil => rfl
  | cons document documents ih =>
      have hrest := ih (fun other hmem => h other (List.mem_cons_of_mem document hmem))
      have hfield : found? name place key document = field? name key document :=
        found?_eq_field? (h document List.mem_cons_self)
      rw [List.findSome?_cons, ← hfield, ← hrest, List.filterMap_cons, found?]
      cases hentry : document.entry? name with
      | none => rfl
      | some v => exact List.findSome?_cons

theorem winner?_eq_highest?
    (h : forall document, document ∈ documents -> leadsToTable name document = true) :
    winner? name place key documents = highest? name key documents := by
  have htables : forall v, v ∈ sectionsOf name documents -> isTable v = true := by
    intro v hv
    rcases exists_of_mem_sectionsOf hv with ⟨document, hmem, hentry⟩
    have hleads := h document hmem
    rwa [leadsToTable, hentry] at hleads
  rw [winner?, visible_of_tables htables, sectionsOf, highest?]
  apply findSome?_sections
  intro document hmem
  exact h document (List.mem_reverse.mp hmem)

end Merging

end Config
end AnalysisHarness
