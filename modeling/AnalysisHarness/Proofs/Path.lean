import AnalysisHarness.Path
import Mathlib.Data.List.TakeWhile

/-!
# Extensions

A name has an extension if it ends in a dot and the extension, with something before the dot. Dots
further to the front do not matter.
-/

namespace AnalysisHarness
namespace Path

theorem extension?_of_no_dot {name : String} (h : '.' ∉ name.toList) : extension? name = none := by
  have hdrop : name.toList.reverse.dropWhile (· != '.') = [] := by
    apply List.dropWhile_eq_nil_iff.mpr
    intro c hc
    rw [bne_iff_ne]
    rintro rfl
    exact h (List.mem_reverse.mp hc)
  rw [extension?, hdrop]

theorem extension?_of_last_dot {name : String} {stem ext : List Char}
    (h : name.toList = stem ++ '.' :: ext) (hext : '.' ∉ ext) :
    extension? name = if stem = [] ∨ name = ".." then none else some (String.ofList ext) := by
  have hreverse : name.toList.reverse = ext.reverse ++ '.' :: stem.reverse := by simp [h]
  have hkept : forall c, c ∈ ext.reverse -> (c != '.') = true := by
    intro c hc
    rw [bne_iff_ne]
    rintro rfl
    exact hext (List.mem_reverse.mp hc)
  have hdrop : name.toList.reverse.dropWhile (· != '.') = '.' :: stem.reverse := by
    rw [hreverse, List.dropWhile_append_of_pos hkept]
    rfl
  have htake : name.toList.reverse.takeWhile (· != '.') = ext.reverse := by
    rw [hreverse, List.takeWhile_append_of_pos hkept, List.takeWhile_cons_of_neg (by decide),
      List.append_nil]
  rw [extension?, hdrop, htake]
  simp

theorem extension?_eq_some_iff {name ext : String} :
    extension? name = some ext <->
      name ≠ ".." ∧ '.' ∉ ext.toList ∧ exists stem, stem ≠ "" ∧ name = stem ++ "." ++ ext := by
  constructor
  · intro h
    by_cases hdot : '.' ∈ name.toList.reverse
    · rcases List.eq_append_cons_of_mem hdot with ⟨after, before, hsplit, hafter⟩
      have hname : name.toList = before.reverse ++ '.' :: after.reverse := by
        rw [← List.reverse_reverse name.toList, hsplit]
        simp
      have hnone : '.' ∉ after.reverse := fun hmem => hafter (List.mem_reverse.mp hmem)
      rw [extension?_of_last_dot hname hnone] at h
      split at h
      · cases h
      · rename_i hstem
        rcases not_or.mp hstem with ⟨hstem, hdots⟩
        cases h
        refine ⟨hdots, by rw [String.toList_ofList]; exact hnone,
          String.ofList before.reverse, ?_, ?_⟩
        · intro heq
          exact hstem (String.ofList_eq_empty_iff.mp heq)
        · apply String.toList_inj.mp
          simp [hname]
    · rw [extension?_of_no_dot fun hmem => hdot (List.mem_reverse.mpr hmem)] at h
      cases h
  · rintro ⟨hdots, hext, stem, hstem, rfl⟩
    have hname : (stem ++ "." ++ ext).toList = stem.toList ++ '.' :: ext.toList := by simp
    have hne : stem.toList ≠ [] := fun heq => hstem (String.toList_eq_nil_iff.mp heq)
    rw [extension?_of_last_dot hname hext, if_neg (not_or.mpr ⟨hne, hdots⟩), String.ofList_toList]

end Path
end AnalysisHarness
