import AnalysisHarness.Config.Layers
import AnalysisHarness.Proofs.Toml.Sorted

/-!
# Documents over documents

Laid over one document, another one changes exactly the entries that it has. This module says what
two layers come to entry by entry, and that sections which are tables in every layer are tables in
what the layers come to.
-/

namespace AnalysisHarness
namespace Config

open Text Toml

def isTable : Value -> Bool
  | .table _ => true
  | _ => false

/-- What two layers come to, each of which may have a value or not. -/
def overlay? : Option Value -> Option Value -> Option Value
  | base, none => base
  | none, some v => some v
  | some base, some v => some (overlay base v)

/-!
## Two layers
-/

theorem exists_table_of_isTable {v : Value} (h : isTable v = true) :
    exists entries, v = .table entries := by
  cases v with
  | table entries => exact ⟨entries, rfl⟩
  | _ => cases h

theorem overlay_of_not_table (base : Value) {v : Value} (h : isTable v = false) :
    overlay base v = v := by
  rw [overlay]
  intro entries hv
  rw [hv] at h
  cases h

theorem isTable_overlay (base : Value) {v : Value} (h : isTable v = true) :
    isTable (overlay base v) = true := by
  rcases exists_table_of_isTable h with ⟨upper, rfl⟩
  cases base <;> simp only [overlay, isTable]

theorem overlay_table_of_not_table {base : Value} (h : isTable base = false)
    (upper : Keyed Value) : overlay base (.table upper) = .table upper := by
  cases base with
  | table entries => cases h
  | _ => simp only [overlay]

theorem overlay?_some (found : Option Value) {v : Value} (h : isTable v = false) :
    overlay? found (some v) = some v := by
  cases found with
  | none => rfl
  | some base => exact congrArg some (overlay_of_not_table base h)

theorem exists_overlay? (found : Option Value) (v : Value) :
    exists w, overlay? found (some v) = some w ∧ isTable w = isTable v := by
  cases hv : isTable v with
  | false => exact ⟨v, overlay?_some found hv, hv⟩
  | true =>
      cases found with
      | none => exact ⟨v, rfl, hv⟩
      | some base => exact ⟨overlay base v, rfl, isTable_overlay base hv⟩

theorem overlay?_some_of_plain {found : Option Value} {v : Value}
    (h : forall w, overlay? found (some v) = some w -> isTable w = false) :
    overlay? found (some v) = some v := by
  rcases exists_overlay? found v with ⟨w, hw, hshape⟩
  exact overlay?_some found (hshape.symm.trans (h w hw))

theorem find?_eq_none_of_ordered {key : String} {v : Value} {rest : Keyed Value}
    (h : Keyed.Ordered ((key, v) :: rest)) : rest.find? key = none := by
  cases hfind : rest.find? key with
  | none => rfl
  | some other =>
      have hlt := (List.pairwise_cons.mp h).1 (key, other) (Keyed.mem_of_find? hfind)
      exact absurd hlt (String.lt_irrefl key)

theorem find?_overlayEntries {upper : Keyed Value} (h : Keyed.Ordered upper)
    (entries : Keyed Value) (key : String) :
    Keyed.find? (overlayEntries entries upper) key =
      overlay? (entries.find? key) (upper.find? key) := by
  induction upper generalizing entries with
  | nil =>
      rw [overlayEntries]
      rfl
  | cons first upper ih =>
      rcases first with ⟨name, v⟩
      rw [overlayEntries, ih (List.pairwise_cons.mp h).2, Keyed.find?_put, Keyed.find?]
      by_cases hkey : key = name
      · rw [if_pos hkey, if_pos hkey.symm, hkey, find?_eq_none_of_ordered h]
        cases entries.find? name with
        | none => rfl
        | some base => rfl
      · rw [if_neg hkey, if_neg (Ne.symm hkey)]

/-!
## Sections

A section that is missing from a document says as much as an empty one.
-/

def sectionOf (name : String) (document : Value) : Keyed Value :=
  match document.entry? name with
  | some (.table entries) => entries
  | _ => []

/-- Whether a key leads to a table, if a document has it at all. -/
def leadsToTable (name : String) (document : Value) : Bool :=
  match document.entry? name with
  | none => true
  | some v => isTable v

def field? (name key : String) (document : Value) : Option Value :=
  Keyed.find? (sectionOf name document) key

section Tables

variable {name : String} {entries upper : Keyed Value}

theorem leadsToTable_table :
    leadsToTable name (.table entries) = true <->
      forall v, Keyed.find? entries name = some v -> isTable v = true := by
  rw [leadsToTable, Value.entry?]
  cases Keyed.find? entries name with
  | none => simp
  | some v => simp

theorem leadsToTable_overlayEntries (hlower : leadsToTable name (.table entries) = true)
    (hupper : leadsToTable name (.table upper) = true) (hsorted : (Value.table upper).Sorted) :
    leadsToTable name (.table (overlayEntries entries upper)) = true := by
  cases hsorted with
  | leaf h => exact absurd rfl (h upper)
  | table hkeys _hvalues =>
      rw [leadsToTable_table] at hlower hupper ⊢
      rw [find?_overlayEntries hkeys]
      intro v hv
      cases hover : Keyed.find? upper name with
      | none =>
          rw [hover] at hv
          exact hlower v hv
      | some above =>
          rcases exists_overlay? (Keyed.find? entries name) above with ⟨w, hw, hshape⟩
          rw [hover, hw] at hv
          cases hv
          exact hshape.trans (hupper above hover)

end Tables

structure Sectioned (name : String) (document : Value) : Prop where
  whole : isTable document = true
  leads : leadsToTable name document = true

variable {name : String}

theorem sectioned_overlay {base layer : Value} (hbase : Sectioned name base)
    (hlayer : Sectioned name layer) (hsorted : layer.Sorted) :
    Sectioned name (overlay base layer) := by
  rcases exists_table_of_isTable hbase.whole with ⟨entries, rfl⟩
  rcases exists_table_of_isTable hlayer.whole with ⟨upper, rfl⟩
  rw [overlay]
  exact ⟨rfl, leadsToTable_overlayEntries hbase.leads hlayer.leads hsorted⟩

/-!
## A pile of layers
-/

/-- The value of a field in the highest document that sets it; the lowest one stands first. -/
def highest? (name key : String) (documents : List Value) : Option Value :=
  documents.reverse.findSome? (field? name key)

/-- Documents that can be laid over each other field by field in a section. -/
def Layered (name : String) (documents : List Value) : Prop :=
  forall document, document ∈ documents -> document.Sorted ∧ Sectioned name document

theorem Layered.tail {layer : Value} {documents : List Value}
    (h : Layered name (layer :: documents)) : Layered name documents :=
  fun document hmem => h document (List.mem_cons_of_mem layer hmem)

theorem sectioned_foldl_overlay {documents : List Value} {base : Value}
    (hbase : Sectioned name base) (hdocuments : Layered name documents) :
    Sectioned name (documents.foldl overlay base) := by
  induction documents generalizing base with
  | nil => exact hbase
  | cons layer documents ih =>
      rcases hdocuments layer List.mem_cons_self with ⟨hsorted, hlayer⟩
      exact ih (sectioned_overlay hbase hlayer hsorted) hdocuments.tail

end Config
end AnalysisHarness
