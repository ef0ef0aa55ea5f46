/-!
# Values under text keys

Lists of values under keys, with one value for each key and the keys in increasing order. Texts
are ordered by their characters, which is the order of their bytes too.
-/

namespace AnalysisHarness
namespace Text

def precedes (a b : String) : Bool :=
  decide (a.toList < b.toList)

abbrev Keyed (α : Type) := List (String × α)

namespace Keyed

variable {α : Type}

def find? : Keyed α -> String -> Option α
  | [], _ => none
  | (k, v) :: rest, key => if k = key then some v else find? rest key

/-- Puts a value under a key, in place of any value there. -/
def put (key : String) (value : α) : Keyed α -> Keyed α
  | [] => [(key, value)]
  | (k, v) :: rest =>
      if key = k then (key, value) :: rest
      else if precedes key k then (key, value) :: (k, v) :: rest
      else (k, v) :: put key value rest

def keys (entries : Keyed α) : List String := entries.map Prod.fst

/-- The values under the keys of a list of pairs, of which the last one with a key counts. -/
def ofPairs (pairs : List (String × α)) : Keyed α :=
  pairs.foldl (fun entries pair => put pair.1 pair.2 entries) []

def Ordered (entries : Keyed α) : Prop :=
  entries.Pairwise fun a b => a.1 < b.1

@[simp] theorem find?_put (key : String) (value : α) (entries : Keyed α) (k : String) :
    (put key value entries).find? k = if k = key then some value else entries.find? k := by
  induction entries with
  | nil =>
      by_cases h : k = key
      · simp [put, find?, h]
      · simp [put, find?, h, Ne.symm h]
  | cons entry rest ih =>
      rcases entry with ⟨k', v⟩
      unfold put
      split
      · rename_i h
        by_cases hk : k = key
        · simp [find?, hk]
        · have : key ≠ k := Ne.symm hk
          have : k' ≠ k := by rw [← h]; exact this
          simp [find?, *, Ne.symm this]
      · split
        · by_cases hk : k = key
          · simp [find?, hk]
          · have : key ≠ k := Ne.symm hk
            simp [find?, *]
        · rename_i h _
          by_cases hk : k' = k
          · have : k ≠ key := by rw [← hk]; exact Ne.symm h
            simp [find?, hk, this]
          · simp [find?, hk, ih]

theorem eq_of_not_precedes {a b : String} (h : ¬precedes a b = true) (h' : ¬precedes b a = true) :
    a = b := by
  apply String.toList_inj.mp
  simp only [precedes, decide_eq_true_eq, List.not_lt] at h h'
  exact List.le_antisymm h' h

theorem lt_of_precedes {a b : String} (h : precedes a b = true) : a < b := by
  exact String.lt_iff.mpr (of_decide_eq_true h)

theorem mem_put {key : String} {value : α} {entries : Keyed α} {entry : String × α}
    (h : entry ∈ put key value entries) : entry = (key, value) ∨ entry ∈ entries := by
  induction entries with
  | nil => simpa [put] using h
  | cons first rest ih =>
      rcases first with ⟨k', v⟩
      unfold put at h
      split at h
      · simp only [List.mem_cons] at h ⊢
        exact h.imp_right Or.inr
      · split at h
        · simpa [List.mem_cons] using h
        · simp only [List.mem_cons] at h ⊢
          cases h with
          | inl h => exact Or.inr (Or.inl h)
          | inr h => exact (ih h).imp_right Or.inr

theorem mem_of_find? {key : String} {value : α} {entries : Keyed α}
    (h : entries.find? key = some value) : (key, value) ∈ entries := by
  induction entries with
  | nil => cases h
  | cons first rest ih =>
      rcases first with ⟨k, v⟩
      rw [find?] at h
      split at h
      · rename_i hk
        rw [hk, Option.some.inj h]
        exact List.mem_cons_self
      · exact List.mem_cons_of_mem _ (ih h)

theorem find?_of_mem {key : String} {value : α} {entries : Keyed α}
    (hkeys : entries.keys.Nodup) (h : (key, value) ∈ entries) :
    entries.find? key = some value := by
  induction entries with
  | nil => cases h
  | cons first rest ih =>
      rcases first with ⟨k, v⟩
      rcases List.nodup_cons.mp hkeys with ⟨hfirst, hrest⟩
      unfold find?
      cases List.mem_cons.mp h with
      | inl heq =>
          cases heq
          rw [if_pos rfl]
      | inr hmem =>
          have hne : k ≠ key := by
            intro heq
            apply hfirst
            exact List.mem_map.mpr ⟨(key, value), hmem, heq.symm⟩
          rw [if_neg hne]
          exact ih hrest hmem

theorem find?_filter_keys (entries : Keyed α) (keep : String -> Bool) (key : String) :
    find? (entries.filter fun e => keep e.1) key =
      if keep key then entries.find? key else none := by
  induction entries with
  | nil => simp [find?]
  | cons first rest ih =>
      rcases first with ⟨k, v⟩
      rw [List.filter_cons]
      by_cases hk : k = key
      · cases hkeep : keep key with
        | true =>
            rw [hk, if_pos hkeep, find?, if_pos rfl]
            simp [find?]
        | false =>
            rw [hk, hkeep, if_neg Bool.false_ne_true, ih, hkeep, if_neg Bool.false_ne_true,
              if_neg Bool.false_ne_true]
      · rw [find?, if_neg hk, ← ih]
        split
        · rw [find?, if_neg hk]
        · rfl

theorem ordered_put {entries : Keyed α} (key : String) (value : α) (h : Ordered entries) :
    Ordered (put key value entries) := by
  induction entries with
  | nil => simp [put, Ordered]
  | cons first rest ih =>
      rcases first with ⟨k', v⟩
      rcases List.pairwise_cons.mp h with ⟨hfirst, hrest⟩
      unfold put
      split
      · rename_i hk
        refine List.pairwise_cons.mpr ⟨?_, hrest⟩
        rw [hk]
        exact hfirst
      · split
        · rename_i hp
          have hlt : key < k' := lt_of_precedes hp
          refine List.pairwise_cons.mpr ⟨?_, h⟩
          intro entry hentry
          cases List.mem_cons.mp hentry with
          | inl he => rw [he]; exact hlt
          | inr he => exact String.lt_trans hlt (hfirst entry he)
        · rename_i hk hp
          refine List.pairwise_cons.mpr ⟨?_, ih hrest⟩
          intro entry hentry
          cases mem_put hentry with
          | inl he =>
              rw [he]
              by_cases hback : precedes k' key = true
              · exact lt_of_precedes hback
              · exact absurd (eq_of_not_precedes hp hback) hk
          | inr he => exact hfirst entry he

end Keyed

end Text
end AnalysisHarness
