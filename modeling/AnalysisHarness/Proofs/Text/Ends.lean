import AnalysisHarness.Text.Blank
import AnalysisHarness.Text.Search
import Mathlib.Data.List.DropRight
import Mathlib.Data.List.Induction

/-!
# Beginnings and ends of texts

With what a text begins, and with what it can still begin and end once blanks have been trimmed.
-/

namespace AnalysisHarness
namespace Text

/-!
## Phrases
-/

theorem isSome_afterPhrase_iff {α : Type} [DecidableEq α] {phrase xs : List α} :
    (afterPhrase phrase xs).isSome = true <-> phrase <+: xs := by
  rw [Option.isSome_iff_exists]
  constructor
  · rintro ⟨rest, hrest⟩
    exact ⟨rest, (afterPhrase_eq_some_iff.mp hrest).symm⟩
  · rintro ⟨rest, hrest⟩
    exact ⟨rest, afterPhrase_eq_some_iff.mpr hrest.symm⟩

theorem prefix_append_cons {α : Type} {phrase xs ys : List α} {x : α} (hx : x ∉ phrase)
    (h : phrase <+: xs ++ x :: ys) : phrase <+: xs := by
  rcases List.prefix_or_prefix_of_prefix h (List.prefix_append xs (x :: ys)) with
    hshort | ⟨rest, rfl⟩
  · exact hshort
  · rcases List.prefix_cons_iff.mp ((List.prefix_append_right_inj xs).mp h) with
      rfl | ⟨others, rfl, _hothers⟩
    · exact ⟨[], (List.append_nil _).trans (List.append_nil xs)⟩
    · exact absurd (List.mem_append_right xs List.mem_cons_self) hx

theorem startsWith_iff (phrase s : String) :
    startsWith phrase s = true <-> phrase.toList <+: s.toList :=
  isSome_afterPhrase_iff

theorem startsWith_append (phrase rest : String) : startsWith phrase (phrase ++ rest) = true := by
  rw [startsWith_iff, String.toList_append]
  exact List.prefix_append _ _

theorem startsWith_append_of_differ {phrase other : String}
    (h : exists pair, pair ∈ phrase.toList.zip other.toList ∧ pair.1 ≠ pair.2) (rest : String) :
    startsWith phrase (other ++ rest) = false := by
  unfold startsWith
  rw [String.toList_append]
  generalize phrase.toList = phrase at h
  generalize other.toList = other at h
  induction phrase generalizing other with
  | nil => simp at h
  | cons p phrase ih =>
      cases other with
      | nil => simp at h
      | cons o other =>
          rw [List.cons_append, afterPhrase]
          by_cases hp : p = o
          · rw [if_pos hp]
            apply ih
            rcases h with ⟨pair, hmem, hne⟩
            rcases List.mem_cons.mp hmem with rfl | hmem
            · exact absurd hp hne
            · exact ⟨pair, hmem, hne⟩
          · rw [if_neg hp]
            rfl

/-!
## Trimmed texts
-/

section DropEnd

variable {α : Type} {p : α -> Bool} {xs : List α}

theorem prefix_dropEndWhile (p : α -> Bool) (xs : List α) : dropEndWhile p xs <+: xs :=
  List.rdropWhile_prefix p xs

theorem not_of_getLast?_dropEndWhile {x : α} (h : (dropEndWhile p xs).getLast? = some x) :
    p x = false := by
  unfold dropEndWhile at h
  rw [List.getLast?_reverse] at h
  have hhead := List.head?_dropWhile_not p xs.reverse
  rw [h] at hhead
  exact hhead

theorem dropEndWhile_eq_self (h : forall x, xs.getLast? = some x -> p x = false) :
    dropEndWhile p xs = xs := by
  apply List.rdropWhile_eq_self_iff.mpr
  intro hne
  rw [h _ (List.getLast?_eq_some_getLast hne)]
  exact Bool.false_ne_true

theorem dropEndWhile_concat_of_pos {x : α} (hx : p x = true) (xs : List α) :
    dropEndWhile p (xs ++ [x]) = dropEndWhile p xs :=
  List.rdropWhile_concat_pos p xs x hx

theorem dropEndWhile_concat_of_neg {x : α} (hx : p x = false) (xs : List α) :
    dropEndWhile p (xs ++ [x]) = xs ++ [x] :=
  List.rdropWhile_concat_neg p xs x (Bool.eq_false_iff.mp hx)

theorem dropEndWhile_congr {q : α -> Bool} (h : forall x, x ∈ xs -> p x = q x) :
    dropEndWhile p xs = dropEndWhile q xs := by
  induction xs using List.reverseRecOn with
  | nil => rfl
  | append_singleton xs x ih =>
      have hlast : p x = q x := h x (List.mem_append_right xs List.mem_cons_self)
      cases hx : p x with
      | true =>
          rw [dropEndWhile_concat_of_pos hx, dropEndWhile_concat_of_pos (hlast ▸ hx)]
          apply ih
          intro y hy
          exact h y (List.mem_append_left [x] hy)
      | false =>
          rw [dropEndWhile_concat_of_neg hx, dropEndWhile_concat_of_neg (hlast ▸ hx)]

end DropEnd

structure Unpadded (cs : List Char) : Prop where
  first : forall c, cs.head? = some c -> isBlank c = false
  last : forall c, cs.getLast? = some c -> isBlank c = false

theorem unpadded_trimChars (cs : List Char) : Unpadded (trimChars cs) := by
  constructor
  · intro c hc
    have hhead : (cs.dropWhile isBlank).head? = some c := by
      rcases prefix_dropEndWhile isBlank (cs.dropWhile isBlank) with ⟨rest, hrest⟩
      rw [← hrest, List.head?_append]
      unfold trimChars at hc
      rw [hc]
      rfl
    have hnot := List.head?_dropWhile_not isBlank cs
    rw [hhead] at hnot
    exact hnot
  · intro c hc
    exact not_of_getLast?_dropEndWhile hc

theorem trim_eq_self_iff (s : String) : trim s = s <-> Unpadded s.toList := by
  rw [← String.toList_inj, toList_trim]
  constructor
  · intro heq
    rw [← heq]
    exact unpadded_trimChars s.toList
  · intro h
    have hfirst : s.toList.dropWhile isBlank = s.toList := by
      cases hs : s.toList with
      | nil => rfl
      | cons c cs =>
          have hc : isBlank c = false := h.first c (by rw [hs]; rfl)
          rw [List.dropWhile_cons_of_neg (by rw [hc]; exact Bool.false_ne_true)]
    unfold trimChars
    rw [hfirst, dropEndWhile_eq_self h.last]

theorem trim_trim (s : String) : trim (trim s) = trim s := by
  rw [trim_eq_self_iff, toList_trim]
  exact unpadded_trimChars s.toList

end Text
end AnalysisHarness
