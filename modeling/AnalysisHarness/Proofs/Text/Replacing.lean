import AnalysisHarness.Proofs.Text.Ends
import AnalysisHarness.Proofs.Text.Occurrences
import AnalysisHarness.Text.Segments
import Mathlib.Data.List.Infix

/-!
# Replacing a phrase

A sequence is some parts without the phrase and an occurrence of it between any two of them.
Replacing keeps the parts and writes the new text for each occurrence. The phrase is gone then, if
no occurrence of it can reach into the new text from outside.
-/

namespace AnalysisHarness
namespace Text

section Replacing

variable {α : Type} {phrase before after xs ys : List α}

/-!
## Sequences cut at an occurrence
-/

theorem FirstOccurrence.not_isInfix (h : FirstOccurrence phrase before after xs)
    (hne : phrase ≠ []) : ¬phrase <:+: before := by
  rintro ⟨start, rest, rfl⟩
  have hle := h.first start (rest ++ (phrase ++ after)) (by rw [h.split]; simp)
  have hpos := List.length_pos_iff.mpr hne
  simp only [List.length_append] at hle
  omega

theorem FirstOccurrence.length_lt (h : FirstOccurrence phrase before after xs)
    (hne : phrase ≠ []) : after.length < xs.length := by
  have hpos := List.length_pos_iff.mpr hne
  rw [h.split, List.length_append, List.length_append]
  omega

theorem FirstOccurrence.of_cons {x : α}
    (h : FirstOccurrence phrase (x :: before) after (x :: xs)) :
    FirstOccurrence phrase before after xs where
  split := (List.cons.inj h.split).2
  first before' after' hsplit :=
    Nat.le_of_succ_le_succ (h.first (x :: before') after' (congrArg (List.cons x) hsplit))

@[elab_as_elim]
theorem induction_on_occurrences [DecidableEq α] {motive : List α -> Prop} (hne : phrase ≠ [])
    (last : forall xs, ¬phrase <:+: xs -> motive xs)
    (more : forall before after xs, FirstOccurrence phrase before after xs -> motive after ->
      motive xs)
    (xs : List α) : motive xs := by
  cases hsplit : splitFirst phrase xs with
  | none => exact last xs (splitFirst_eq_none_iff.mp hsplit)
  | some parts =>
      rcases parts with ⟨before, after⟩
      have hfirst := firstOccurrence_of_splitFirst hsplit
      have hshorter := hfirst.length_lt hne
      exact more before after xs hfirst (induction_on_occurrences hne last more after)
termination_by xs.length

theorem infix_append_cons {x : α} (hx : x ∉ phrase) (h : phrase <:+: xs ++ x :: ys) :
    phrase <:+: xs ∨ phrase <:+: ys := by
  induction xs with
  | nil =>
      rcases List.infix_cons_iff.mp h with hstart | hlater
      · exact Or.inl (prefix_append_cons hx hstart).isInfix
      · exact Or.inr hlater
  | cons y xs ih =>
      rcases List.infix_cons_iff.mp h with hstart | hlater
      · exact Or.inl (prefix_append_cons hx hstart).isInfix
      · exact (ih hlater).imp_left fun hxs => List.infix_cons_iff.mpr (Or.inr hxs)

variable [DecidableEq α]

/-!
## The result
-/

theorem replaceFrom_append (old new skipped rest : List α) :
    replaceFrom old new skipped.length (skipped ++ rest) = replaceAll old new rest := by
  induction skipped with
  | nil => rfl
  | cons x skipped ih => exact ih

theorem replaceAll_of_absent (h : ¬phrase <:+: xs) (new : List α) :
    replaceAll phrase new xs = xs := by
  induction xs with
  | nil => rfl
  | cons x xs ih =>
      have hlater : ¬phrase <:+: xs := fun hxs => h (List.infix_cons_iff.mpr (Or.inr hxs))
      have hnot : ¬(afterPhrase phrase (x :: xs)).isSome = true :=
        fun hsome => h (isSome_afterPhrase_iff.mp hsome).isInfix
      rw [replaceAll, replaceFrom, if_neg hnot]
      exact congrArg (List.cons x) (ih hlater)

/-- What stands before the first occurrence stays, and behind it replacing begins anew. -/
theorem replaceAll_of_firstOccurrence (hne : phrase ≠ [])
    (h : FirstOccurrence phrase before after xs) (new : List α) :
    replaceAll phrase new xs = before ++ (new ++ replaceAll phrase new after) := by
  induction before generalizing xs with
  | nil =>
      have hphrase := h.split
      rw [List.nil_append] at hphrase
      cases phrase with
      | nil => exact absurd rfl hne
      | cons p phrase =>
          have hsome : (afterPhrase (p :: phrase) (p :: (phrase ++ after))).isSome = true :=
            isSome_afterPhrase_iff.mpr (List.prefix_append (p :: phrase) after)
          rw [hphrase, List.cons_append, replaceAll, replaceFrom, if_pos hsome]
          exact congrArg (List.append new) (replaceFrom_append (p :: phrase) new phrase after)
  | cons x before ih =>
      cases xs with
      | nil => cases h.split
      | cons y xs =>
          cases (List.cons.inj h.split).1
          have hnot : ¬(afterPhrase phrase (x :: xs)).isSome = true := by
            intro hsome
            rcases isSome_afterPhrase_iff.mp hsome with ⟨rest, hrest⟩
            have hle : (x :: before).length ≤ 0 := h.first [] rest hrest.symm
            exact absurd hle (Nat.not_succ_le_zero before.length)
          rw [replaceAll, replaceFrom, if_neg hnot]
          exact congrArg (List.cons x) (ih h.of_cons)

theorem replaceAll_of_not_mem {x : α} (h : x ∉ xs) (new : List α) : replaceAll [x] new xs = xs :=
  replaceAll_of_absent (fun hinside => h (hinside.subset List.mem_cons_self)) new

theorem replaceAll_append_sep {sep : α} (h : sep ∉ xs) (x : α) (rest : List α) :
    replaceAll [sep] [x, sep] (xs ++ sep :: rest) =
      xs ++ [x] ++ sep :: replaceAll [sep] [x, sep] rest := by
  have hfirst : FirstOccurrence [sep] xs rest (xs ++ sep :: rest) :=
    firstOccurrence_singleton_iff.mpr ⟨rfl, h⟩
  rw [replaceAll_of_firstOccurrence (List.cons_ne_nil sep []) hfirst, List.append_assoc]
  rfl

theorem exists_parts (hne : phrase ≠ []) (xs : List α) :
    exists parts,
      parts ≠ [] ∧ (forall part, part ∈ parts -> ¬phrase <:+: part) ∧
      xs = joinSegments phrase parts ∧
      forall new, replaceAll phrase new xs = joinSegments new parts := by
  induction xs using induction_on_occurrences hne with
  | last xs hxs =>
      refine ⟨[xs], List.cons_ne_nil xs [], ?_, rfl, replaceAll_of_absent hxs⟩
      intro part hpart
      rw [List.mem_singleton.mp hpart]
      exact hxs
  | more before after xs hfirst ih =>
      rcases ih with ⟨parts, hparts, hfree, hafter, hreplaced⟩
      rcases List.exists_cons_of_ne_nil hparts with ⟨part, parts, rfl⟩
      refine ⟨before :: part :: parts, List.cons_ne_nil _ _, ?_, ?_, ?_⟩
      · intro other hother
        rcases List.mem_cons.mp hother with rfl | hother
        · exact hfirst.not_isInfix hne
        · exact hfree other hother
      · rw [joinSegments_cons_cons, ← hafter, List.append_assoc]
        exact hfirst.split
      · intro new
        rw [joinSegments_cons_cons, ← hreplaced, List.append_assoc]
        exact replaceAll_of_firstOccurrence hne hfirst new

/-- Wherever the text `new` stands, no occurrence of a phrase reaches into it. -/
def KeepsOut (phrase new : List α) : Prop :=
  forall before after, phrase <:+: before ++ (new ++ after) ->
    phrase <:+: before ∨ phrase <:+: after

theorem not_infix_replaceAll {new : List α} (hne : phrase ≠ []) (hnew : KeepsOut phrase new)
    (xs : List α) : ¬phrase <:+: replaceAll phrase new xs := by
  induction xs using induction_on_occurrences hne with
  | last xs hxs =>
      rw [replaceAll_of_absent hxs]
      exact hxs
  | more before after xs hfirst ih =>
      rw [replaceAll_of_firstOccurrence hne hfirst]
      intro hphrase
      rcases hnew before _ hphrase with hbefore | hafter
      · exact hfirst.not_isInfix hne hbefore
      · exact ih hafter

theorem replaceAll_eq_self_iff {new : List α} (hne : phrase ≠ []) (hnew : KeepsOut phrase new) :
    replaceAll phrase new xs = xs <-> ¬phrase <:+: xs := by
  constructor
  · intro hsame
    have hgone := not_infix_replaceAll hne hnew xs
    rw [hsame] at hgone
    exact hgone
  · intro h
    exact replaceAll_of_absent h new

theorem replaceAll_of_only_occurrence (hne : phrase ≠ [])
    (hsplit : xs = before ++ (phrase ++ after))
    (honly : forall before' after', xs = before' ++ (phrase ++ after') -> before' = before)
    (new : List α) : replaceAll phrase new xs = before ++ (new ++ after) := by
  have hfirst : FirstOccurrence phrase before after xs := by
    refine ⟨hsplit, ?_⟩
    intro before' after' hother
    rw [honly before' after' hother]
  have hafter : ¬phrase <:+: after := by
    rintro ⟨start, rest, rfl⟩
    have hlater := honly (before ++ (phrase ++ start)) rest (by rw [hsplit]; simp)
    have hlength := congrArg List.length hlater
    have hpos := List.length_pos_iff.mpr hne
    simp only [List.length_append] at hlength
    omega
  rw [replaceAll_of_firstOccurrence hne hfirst, replaceAll_of_absent hafter]

end Replacing

end Text
end AnalysisHarness
