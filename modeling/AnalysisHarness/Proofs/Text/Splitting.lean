import AnalysisHarness.Text.Search
import AnalysisHarness.Text.Segments

/-!
# Cutting at the first separator

A sequence either has no separator in it or begins with a segment that a separator ends. Both ways
of cutting a sequence follow this split, and so do the proofs about them.
-/

namespace AnalysisHarness
namespace Text

section Splitting

variable {α : Type} [DecidableEq α]

@[elab_as_elim]
theorem induction_on_segments {motive : List α -> Prop} (sep : α)
    (last : forall xs, sep ∉ xs -> motive xs)
    (more : forall xs rest, sep ∉ xs -> motive rest -> motive (xs ++ sep :: rest))
    (xs : List α) : motive xs := by
  by_cases hsep : sep ∈ xs
  · rcases List.eq_append_cons_of_mem hsep with ⟨first, rest, hxs, hfirst⟩
    have hshorter : rest.length < xs.length := by
      rw [hxs, List.length_append, List.length_cons]
      omega
    rw [hxs]
    exact more first rest hfirst (induction_on_segments sep last more rest)
  · exact last xs hsep
termination_by xs.length

/-! ## Segments -/

theorem segments_of_not_mem {sep : α} {xs : List α} (h : sep ∉ xs) : segments sep xs = [xs] := by
  induction xs with
  | nil => rfl
  | cons x xs ih =>
      have hx : x ≠ sep := (List.ne_of_not_mem_cons h).symm
      have hxs := ih (List.not_mem_of_not_mem_cons h)
      rw [segments, if_neg hx, hxs]

theorem segments_append {sep : α} {xs : List α} (h : sep ∉ xs) (rest : List α) :
    segments sep (xs ++ sep :: rest) = xs :: segments sep rest := by
  induction xs with
  | nil => exact segments_cons_sep sep rest
  | cons x xs ih =>
      have hx : x ≠ sep := (List.ne_of_not_mem_cons h).symm
      have hxs := ih (List.not_mem_of_not_mem_cons h)
      rw [List.cons_append, segments, if_neg hx, hxs]

theorem segments_append_sep (sep : α) (xs rest : List α) :
    segments sep (xs ++ sep :: rest) = segments sep xs ++ segments sep rest := by
  induction xs using induction_on_segments sep with
  | last xs hxs => rw [segments_append hxs, segments_of_not_mem hxs, List.singleton_append]
  | more xs others hxs ih =>
      rw [List.append_assoc, List.cons_append, segments_append hxs, segments_append hxs, ih,
        List.cons_append]

theorem not_mem_of_mem_segments {sep : α} {xs segment : List α} (h : segment ∈ segments sep xs) :
    sep ∉ segment := by
  induction xs using induction_on_segments sep with
  | last xs hxs =>
      rw [segments_of_not_mem hxs, List.mem_singleton] at h
      rw [h]
      exact hxs
  | more xs rest hxs ih =>
      rw [segments_append hxs, List.mem_cons] at h
      rcases h with rfl | h
      · exact hxs
      · exact ih h

theorem length_segments (sep : α) (xs : List α) :
    (segments sep xs).length = xs.count sep + 1 := by
  induction xs using induction_on_segments sep with
  | last xs hxs => rw [segments_of_not_mem hxs, List.count_eq_zero_of_not_mem hxs]; rfl
  | more xs rest hxs ih =>
      rw [segments_append hxs, List.length_cons, ih, List.count_append,
        List.count_eq_zero_of_not_mem hxs, List.count_cons_self, Nat.zero_add]

def fields (sep : Char) (s : String) : List String := (segments sep s.toList).map String.ofList

theorem length_fields (sep : Char) (s : String) :
    (fields sep s).length = s.toList.count sep + 1 := by
  rw [fields, List.length_map, length_segments]

theorem fields_of_not_mem {sep : Char} {s : String} (h : sep ∉ s.toList) : fields sep s = [s] := by
  rw [fields, segments_of_not_mem h, List.map_singleton, String.ofList_toList]

theorem fields_append {sep : Char} {s : String} (h : sep ∉ s.toList) (rest : String) :
    fields sep (s ++ String.singleton sep ++ rest) = s :: fields sep rest := by
  rw [fields, String.toList_append, String.toList_append, List.append_assoc, fields]
  rw [show (String.singleton sep).toList ++ rest.toList = sep :: rest.toList by simp]
  rw [segments_append h, List.map_cons, String.ofList_toList]

def withEnds {β : Type} : List β -> List (β × Bool)
  | [] => []
  | [last] => [(last, false)]
  | first :: others => (first, true) :: withEnds others

theorem withEnds_segments_append {sep : α} {xs : List α} (h : sep ∉ xs) (rest : List α) :
    withEnds (segments sep (xs ++ sep :: rest)) = (xs, true) :: withEnds (segments sep rest) := by
  rw [segments_append h]
  cases hsegments : segments sep rest with
  | nil => exact absurd hsegments (segments_ne_nil sep rest)
  | cons first others => rfl

theorem map_fst_withEnds {β : Type} (xs : List β) : (withEnds xs).map Prod.fst = xs := by
  induction xs with
  | nil => rfl
  | cons x xs ih =>
      cases xs with
      | nil => rfl
      | cons y ys => exact congrArg (List.cons x) ih

/-! ## Pieces -/

theorem pieces_of_not_mem {sep : α} {xs : List α} (h : sep ∉ xs) (hne : xs ≠ []) :
    pieces sep xs = [xs] := by
  induction xs with
  | nil => exact absurd rfl hne
  | cons x xs ih =>
      have hx : x ≠ sep := (List.ne_of_not_mem_cons h).symm
      rw [pieces, if_neg hx]
      cases xs with
      | nil => rfl
      | cons y xs =>
          rw [ih (List.not_mem_of_not_mem_cons h) (List.cons_ne_nil y xs)]

theorem pieces_append {sep : α} {xs : List α} (h : sep ∉ xs) (rest : List α) :
    pieces sep (xs ++ sep :: rest) = (xs ++ [sep]) :: pieces sep rest := by
  induction xs with
  | nil =>
      rw [List.nil_append, pieces, if_pos rfl]
      rfl
  | cons x xs ih =>
      have hx : x ≠ sep := (List.ne_of_not_mem_cons h).symm
      have hxs := ih (List.not_mem_of_not_mem_cons h)
      rw [List.cons_append, pieces, if_neg hx, hxs]
      rfl

/-- Whether the last piece of a sequence breaks off before a separator. -/
def breaksOff (sep : α) (xs : List α) : Bool := xs.getLast?.any fun x => x != sep

theorem breaksOff_append (sep : α) (xs : List α) {ys : List α} (hys : ys ≠ []) :
    breaksOff sep (xs ++ ys) = breaksOff sep ys := by
  rw [breaksOff, breaksOff, List.getLast?_append, List.getLast?_eq_some_getLast hys, Option.some_or]

theorem breaksOff_of_not_mem {sep : α} {xs : List α} (h : sep ∉ xs) (hne : xs ≠ []) :
    breaksOff sep xs = true := by
  have hlast : xs.getLast hne ≠ sep := by
    intro heq
    exact h (heq ▸ List.getLast_mem hne)
  simp [breaksOff, List.getLast?_eq_some_getLast hne, hlast]

theorem breaksOff_append_sep (sep : α) (xs rest : List α) :
    breaksOff sep (xs ++ sep :: rest) = breaksOff sep rest := by
  cases rest with
  | nil => simp [breaksOff]
  | cons x rest =>
      rw [breaksOff_append sep xs (List.cons_ne_nil sep (x :: rest))]
      exact breaksOff_append sep [sep] (List.cons_ne_nil x rest)

theorem pieces_append_of_not_breaksOff {sep : α} {xs : List α} (h : breaksOff sep xs = false)
    (ys : List α) : pieces sep (xs ++ ys) = pieces sep xs ++ pieces sep ys := by
  induction xs using induction_on_segments sep with
  | last xs hsep =>
      cases xs with
      | nil => rfl
      | cons x xs =>
          rw [breaksOff_of_not_mem hsep (List.cons_ne_nil x xs)] at h
          cases h
  | more first rest hfirst ih =>
      rw [breaksOff_append_sep] at h
      rw [List.append_assoc, List.cons_append, pieces_append hfirst, pieces_append hfirst, ih h]
      rfl

theorem length_pieces_append_of_breaksOff {sep : α} {xs ys : List α}
    (h : breaksOff sep xs = true) (hys : ys ≠ []) :
    (pieces sep (xs ++ ys)).length + 1 = (pieces sep xs).length + (pieces sep ys).length := by
  induction xs using induction_on_segments sep with
  | last xs hsep =>
      have hne : xs ≠ [] := by
        intro hnil
        rw [hnil] at h
        cases h
      rw [pieces_of_not_mem hsep hne, List.length_singleton, Nat.add_comm 1]
      by_cases hmem : sep ∈ ys
      · rcases List.eq_append_cons_of_mem hmem with ⟨first, rest, rfl, hfirst⟩
        have hboth : sep ∉ xs ++ first := by
          rw [List.mem_append]
          rintro (hxs | hys)
          · exact hsep hxs
          · exact hfirst hys
        rw [← List.append_assoc, pieces_append hboth, pieces_append hfirst]
        rfl
      · have hboth : sep ∉ xs ++ ys := by
          rw [List.mem_append]
          rintro (hxs | hys)
          · exact hsep hxs
          · exact hmem hys
        have hboth_ne : xs ++ ys ≠ [] := List.append_ne_nil_of_left_ne_nil hne ys
        rw [pieces_of_not_mem hboth hboth_ne, pieces_of_not_mem hmem hys]
        rfl
  | more first rest hfirst ih =>
      rw [breaksOff_append_sep] at h
      have hrest := ih h
      rw [List.append_assoc, List.cons_append, pieces_append hfirst, pieces_append hfirst,
        List.length_cons, List.length_cons]
      omega

/-! ## Phrases -/

theorem infix_iff_holds (phrase xs : List α) : phrase <:+: xs <-> holds phrase xs = true := by
  rw [holds_iff]
  constructor
  · rintro ⟨before, rest, h⟩
    exact ⟨before, rest, h.symm⟩
  · rintro ⟨before, rest, h⟩
    exact ⟨before, rest, h.symm⟩

theorem holds_append_other {x : α} {phrase : List α} (hx : x ∉ phrase) (hne : phrase ≠ [])
    (xs : List α) : holds phrase (xs ++ [x]) = holds phrase xs := by
  rw [Bool.eq_iff_iff, holds_iff, holds_iff]
  constructor
  · intro h
    rcases h with ⟨before, rest, heq⟩
    rcases List.eq_nil_or_concat rest with rfl | ⟨rest, y, rfl⟩
    · rcases List.eq_nil_or_concat phrase with hnil | ⟨start, y, rfl⟩
      · exact absurd hnil hne
      · rw [List.append_nil, List.concat_eq_append, ← List.append_assoc] at heq
        have hy := (List.append_inj' heq rfl).2
        cases hy
        exact absurd (by simp) hx
    · rw [List.concat_eq_append, ← List.append_assoc] at heq
      exact ⟨before, rest, (List.append_inj' heq rfl).1⟩
  · intro h
    rcases h with ⟨before, rest, rfl⟩
    exact ⟨before, rest ++ [x], by rw [List.append_assoc, List.append_assoc]⟩

end Splitting

end Text
end AnalysisHarness
