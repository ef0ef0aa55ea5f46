import AnalysisHarness.Text.Search

/-!
# First occurrences

A sequence is split at the first occurrence of a phrase if it holds the phrase at all, and there is
only one way to do that.
-/

namespace AnalysisHarness
namespace Text

section Occurrences

variable {α : Type} {phrase before after xs : List α}

/-- A phrase stands between two parts of a sequence, and nowhere further to the left. -/
structure FirstOccurrence (phrase before after xs : List α) : Prop where
  split : xs = before ++ (phrase ++ after)
  first : forall before' after', xs = before' ++ (phrase ++ after') ->
    before.length ≤ before'.length

theorem FirstOccurrence.isInfix (h : FirstOccurrence phrase before after xs) : phrase <:+: xs := by
  exists before, after
  rw [h.split, List.append_assoc]

theorem FirstOccurrence.unique {before' after' : List α}
    (h : FirstOccurrence phrase before after xs) (h' : FirstOccurrence phrase before' after' xs) :
    before = before' ∧ after = after' := by
  have hlength : before.length = before'.length :=
    Nat.le_antisymm (h.first before' after' h'.split) (h'.first before after h.split)
  rcases List.append_inj (h.split.symm.trans h'.split) hlength with ⟨hbefore, hrest⟩
  exact ⟨hbefore, List.append_cancel_left hrest⟩

theorem firstOccurrence_singleton_iff {x : α} :
    FirstOccurrence [x] before after xs <-> xs = before ++ x :: after ∧ x ∉ before := by
  constructor
  · intro h
    refine ⟨h.split, ?_⟩
    intro hmem
    rcases List.append_of_mem hmem with ⟨start, more, rfl⟩
    have hle := h.first start (more ++ x :: after) (by rw [h.split]; simp)
    rw [List.length_append, List.length_cons] at hle
    omega
  · rintro ⟨rfl, hnot⟩
    refine ⟨rfl, ?_⟩
    intro start more hsplit
    apply Nat.le_of_not_lt
    intro hlt
    have hx : (before ++ x :: after)[start.length]? = some x := by
      rw [hsplit, List.getElem?_append_right (Nat.le_refl _), Nat.sub_self]
      rfl
    rw [List.getElem?_append_left hlt] at hx
    exact hnot (List.mem_of_getElem? hx)

variable [DecidableEq α]

theorem firstOccurrence_of_splitFirst (h : splitFirst phrase xs = some (before, after)) :
    FirstOccurrence phrase before after xs := by
  induction xs generalizing before with
  | nil =>
      unfold splitFirst at h
      split at h
      · rename_i hempty
        cases h
        constructor
        · rw [List.isEmpty_iff.mp hempty]
          rfl
        · intro before' after' _hsplit
          exact Nat.zero_le _
      · cases h
  | cons x xs ih =>
      unfold splitFirst at h
      split at h
      · rename_i tail htail
        cases h
        constructor
        · rw [List.nil_append]
          exact afterPhrase_eq_some_iff.mp htail
        · intro before' after' _hsplit
          exact Nat.zero_le _
      · rename_i hnot
        rcases Option.map_eq_some_iff.mp h with ⟨⟨before, after⟩, hlater, heq⟩
        cases heq
        have hoccurs := ih hlater
        constructor
        · rw [hoccurs.split]
          rfl
        · intro before' after' hsplit
          cases before' with
          | nil =>
              rw [List.nil_append] at hsplit
              rw [afterPhrase_eq_some_iff.mpr hsplit] at hnot
              cases hnot
          | cons y before' =>
              have hrest := hoccurs.first before' after' (List.cons.inj hsplit).2
              exact Nat.succ_le_succ hrest

theorem exists_splitFirst (h : phrase <:+: xs) :
    exists before after, splitFirst phrase xs = some (before, after) := by
  rcases h with ⟨start, rest, rfl⟩
  induction start with
  | nil =>
      rw [List.nil_append]
      cases phrase with
      | nil => cases rest <;> exact ⟨[], _, rfl⟩
      | cons p phrase =>
          exists [], rest
          have hafter := afterPhrase_append (p :: phrase) rest
          rw [List.cons_append] at hafter ⊢
          rw [splitFirst, hafter]
  | cons x start ih =>
      rcases ih with ⟨before, after, hsplit⟩
      rw [List.cons_append, List.cons_append, splitFirst]
      split
      · exact ⟨[], _, rfl⟩
      · rw [hsplit]
        exact ⟨x :: before, after, rfl⟩

theorem splitFirst_eq_some_iff :
    splitFirst phrase xs = some (before, after) <-> FirstOccurrence phrase before after xs := by
  constructor
  · exact firstOccurrence_of_splitFirst
  · intro h
    rcases exists_splitFirst h.isInfix with ⟨before', after', hsplit⟩
    rcases h.unique (firstOccurrence_of_splitFirst hsplit) with ⟨rfl, rfl⟩
    exact hsplit

theorem splitFirst_eq_none_iff : splitFirst phrase xs = none <-> ¬phrase <:+: xs := by
  constructor
  · intro h hinfix
    rcases exists_splitFirst hinfix with ⟨before, after, hsplit⟩
    rw [hsplit] at h
    cases h
  · intro h
    cases hsplit : splitFirst phrase xs with
    | none => rfl
    | some parts => exact absurd (firstOccurrence_of_splitFirst hsplit).isInfix h

end Occurrences

end Text
end AnalysisHarness
