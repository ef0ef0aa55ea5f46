import AnalysisHarness.Decimal.Shortest
import AnalysisHarness.Proofs.Decimal.Digits
import AnalysisHarness.Proofs.Decimal.Rounding

/-!
# Seventeen digits suffice

A grid of decimal numbers with seventeen digits is so fine that the neighbour of a double-precision
number on it is rounded to that number. So shortest digits are always found, and they stand for the
number that they are looked for.
-/

namespace AnalysisHarness
namespace Decimal

open Binary64

/-!
## Literals
-/

namespace Literal

theorem toBinary64_eq_ofRatio {d : Nat} (hd : 0 < d) {k : Int} (hlow : -400 ≤ k + size d)
    (hhigh : k + size d ≤ 400) (negative : Bool) :
    toBinary64 ⟨negative, d, k⟩ = ofRatio negative (d * 10 ^ k.toNat) (10 ^ (-k).toNat) := by
  unfold toBinary64
  dsimp only
  rw [if_neg (Nat.ne_of_gt hd), if_neg (Int.not_lt.mpr hhigh), if_neg (Int.not_lt.mpr hlow)]
  split
  · rename_i hk
    rw [show (-k).toNat = 0 by omega, Nat.pow_zero]
  · rename_i hk
    rw [show k.toNat = 0 by omega, Nat.pow_zero, Nat.mul_one]

theorem toBinary64_mul_ten {d : Nat} (hd : 0 < d) (k : Int) (negative : Bool) :
    toBinary64 ⟨negative, d * 10, k⟩ = toBinary64 ⟨negative, d, k + 1⟩ := by
  have hten : 0 < d * 10 := by omega
  have hsize := size_mul_ten hd
  by_cases hhigh : 400 < k + 1 + size d
  · unfold toBinary64
    dsimp only
    rw [if_neg (Nat.ne_of_gt hten), if_neg (Nat.ne_of_gt hd), if_pos (by omega), if_pos hhigh]
  by_cases hlow : k + 1 + size d < -400
  · unfold toBinary64
    dsimp only
    rw [if_neg (Nat.ne_of_gt hten), if_neg (Nat.ne_of_gt hd), if_neg (by omega), if_neg hhigh,
      if_pos (by omega), if_pos hlow]
  rw [toBinary64_eq_ofRatio hten (by omega) (by omega),
    toBinary64_eq_ofRatio hd (by omega) (by omega)]
  by_cases hk : 0 ≤ k
  · rw [show (k + 1).toNat = k.toNat + 1 by omega, show (-(k + 1)).toNat = (-k).toNat by omega,
      Nat.pow_succ, Nat.mul_assoc, Nat.mul_comm 10]
  · rw [show (k + 1).toNat = 0 by omega, show k.toNat = 0 by omega,
      show (-k).toNat = (-(k + 1)).toNat + 1 by omega, Nat.pow_succ, Nat.pow_zero, Nat.mul_one,
      Nat.mul_one, Nat.mul_comm d, Nat.mul_comm _ 10]
    exact ofRatio_scale (by decide) (Nat.pow_pos (by decide)) negative d

theorem toBinary64_mul_pow {d : Nat} (hd : 0 < d) (j : Nat) (k : Int) (negative : Bool) :
    toBinary64 ⟨negative, d * 10 ^ j, k⟩ = toBinary64 ⟨negative, d, k + j⟩ := by
  induction j generalizing k with
  | zero => rw [Nat.pow_zero, Nat.mul_one, Int.natCast_zero, Int.add_zero]
  | succ j ih =>
      have hpos : 0 < d * 10 ^ j := Nat.mul_pos hd (Nat.pow_pos (by decide))
      rw [Nat.pow_succ, ← Nat.mul_assoc, toBinary64_mul_ten hpos, ih,
        show k + 1 + (j : Int) = k + ((j + 1 : Nat) : Int) by omega]

end Literal

/-!
## Grids
-/

theorem scaleDown_eq (num den : Nat) (k : Int) :
    scaleDown num den k = (num * 10 ^ (-k).toNat, den * 10 ^ k.toNat) := by
  unfold scaleDown
  split
  · rw [show (-k).toNat = 0 by omega, Nat.pow_zero, Nat.mul_one]
  · rw [show k.toNat = 0 by omega, Nat.pow_zero, Nat.mul_one]

/-- Digits on a fine grid that lie at most half a step away from a number stand for it. -/
theorem readsBack_of_half {m e d num den : Nat} {k : Int}
    (hcanonical : (finite false m e).Canonical) (hd : 0 < d) (hlow : -400 ≤ k + Literal.size d)
    (hhigh : k + Literal.size d ≤ 400) (hgrid : scaleDown (m * 2 ^ e) (2 ^ 1074) k = (num, den))
    (hfine : 10 ^ 16 * den ≤ num) (hbelow : 2 * num ≤ 2 * (d * den) + den)
    (habove : 2 * (d * den) ≤ 2 * num + den) : readsBack m e d k = true := by
  rw [scaleDown_eq] at hgrid
  rcases Prod.mk.inj hgrid with ⟨hnum, hden⟩
  have hpos : 0 < den := by
    rw [← hden]
    apply Nat.mul_pos
    · exact Nat.two_pow_pos 1074
    · exact Nat.pow_pos (by decide)
  have hscaled : d * 10 ^ k.toNat * 2 ^ 1074 = d * den := by
    rw [← hden, Nat.mul_assoc, Nat.mul_comm (10 ^ _)]
  have hnear : Near (d * 10 ^ k.toNat * 2 ^ 1074) (10 ^ (-k).toNat) m e := by
    rw [hscaled]
    clear hscaled hden
    constructor
    all_goals
      rw [← Nat.mul_assoc m, hnum]
      omega
  unfold readsBack
  rw [Literal.toBinary64_eq_ofRatio hd hlow hhigh,
    ofRatio_of_near (Nat.pow_pos (by decide)) hcanonical hnear]
  exact beq_self_eq_true _

theorem pow_mul_den (i j k den : Nat) :
    10 ^ (i + j + k) * den = 10 ^ i * (10 ^ j * (den * 10 ^ k)) := by
  rw [Nat.pow_add, Nat.pow_add, Nat.mul_comm den, ← Nat.mul_assoc, ← Nat.mul_assoc]

theorem size_div_bounds {num den : Nat} (hden : 0 < den) (hle : den ≤ num) :
    10 ^ (Literal.size (num / den) - 1) * den ≤ num ∧
      num < 10 ^ Literal.size (num / den) * den := by
  constructor
  · apply (Nat.le_div_iff_mul_le hden).mp
    exact Literal.pow_size_le (Nat.div_pos hle hden)
  · apply (Nat.div_lt_iff_lt_mul hden).mp
    exact Literal.lt_pow_size (num / den)

/-- The leading digit of a quotient stands before the power of ten that is said to lead. -/
theorem leading_bounds {num den : Nat} (hden : 0 < den) (hsize : den ≤ num * 10 ^ 340)
    {k : Int} {j : Nat} (hk : leadingExponent num den = k + j) {num' den' : Nat}
    (hgrid : scaleDown num den k = (num', den')) :
    10 ^ j * den' ≤ num' ∧ num' < 10 ^ (j + 1) * den' := by
  rw [scaleDown_eq] at hgrid
  rcases Prod.mk.inj hgrid with ⟨rfl, rfl⟩
  unfold leadingExponent at hk
  rcases size_div_bounds hden hsize with ⟨hlow, hhigh⟩
  generalize num * 10 ^ 340 / den = q at hk hlow hhigh
  have hpos := Literal.size_pos q
  have hscale : 0 < 10 ^ (-k).toNat := Nat.pow_pos (by decide)
  have hunit : 0 < 10 ^ 340 := @Nat.pow_pos 10 340 (by decide)
  have hmove : num * 10 ^ 340 * 10 ^ (-k).toNat = 10 ^ 340 * (num * 10 ^ (-k).toNat) := by
    rw [Nat.mul_right_comm, Nat.mul_comm]
  constructor
  · apply Nat.le_of_mul_le_mul_left _ hunit
    calc 10 ^ 340 * (10 ^ j * (den * 10 ^ k.toNat))
        = 10 ^ (340 + j + k.toNat) * den := (pow_mul_den 340 j k.toNat den).symm
      _ = 10 ^ (Literal.size q - 1) * den * 10 ^ (-k).toNat := by
          rw [show 340 + j + k.toNat = Literal.size q - 1 + (-k).toNat by omega, Nat.pow_add,
            Nat.mul_right_comm]
      _ ≤ num * 10 ^ 340 * 10 ^ (-k).toNat := Nat.mul_le_mul_right _ hlow
      _ = 10 ^ 340 * (num * 10 ^ (-k).toNat) := hmove
  · apply Nat.lt_of_mul_lt_mul_left (a := 10 ^ 340)
    calc 10 ^ 340 * (num * 10 ^ (-k).toNat)
        = num * 10 ^ 340 * 10 ^ (-k).toNat := hmove.symm
      _ < 10 ^ Literal.size q * den * 10 ^ (-k).toNat := Nat.mul_lt_mul_of_pos_right hhigh hscale
      _ = 10 ^ (340 + (j + 1) + k.toNat) * den := by
          rw [show 340 + (j + 1) + k.toNat = Literal.size q + (-k).toNat by omega, Nat.pow_add,
            Nat.mul_right_comm]
      _ = 10 ^ 340 * (10 ^ (j + 1) * (den * 10 ^ k.toNat)) := pow_mul_den 340 (j + 1) k.toNat den

theorem leadingExponent_bounds {m e : Nat} (hcanonical : (finite false m e).Canonical) :
    -340 ≤ leadingExponent (m * 2 ^ e) (2 ^ 1074) ∧
      leadingExponent (m * 2 ^ e) (2 ^ 1074) ≤ 308 := by
  rcases hcanonical with ⟨hm, _he, hmax⟩
  have hsize : Literal.size (m * 2 ^ e * 10 ^ 340 / 2 ^ 1074) ≤ 649 := by
    apply (Literal.size_le_iff (by decide)).mpr
    apply (Nat.div_lt_iff_lt_mul (Nat.two_pow_pos _)).mpr
    have hpow : 2 ^ e ≤ 2 ^ maxExponent := Nat.pow_le_pow_right (by decide) hmax
    calc m * 2 ^ e * 10 ^ 340
        ≤ 2 ^ 53 * 2 ^ maxExponent * 10 ^ 340 :=
          Nat.mul_le_mul_right _ (Nat.mul_le_mul (Nat.le_of_lt hm) hpow)
      _ < 10 ^ 649 * 2 ^ 1074 := by decide +kernel
  have hpos := Literal.size_pos (m * 2 ^ e * 10 ^ 340 / 2 ^ 1074)
  unfold leadingExponent
  omega

/-!
## Searching the grids
-/

theorem readsBack_of_neighbour {m e : Nat} {k : Int} {d : Digits} (h : neighbour m e k = some d) :
    readsBack m e d.digits d.exponent = true := by
  unfold neighbour at h
  dsimp only at h
  split at h
  · rename_i hlow
    cases h
    exact (Bool.and_eq_true_iff.mp hlow).1
  · split at h
    · rename_i hhigh
      cases h
      exact hhigh
    · cases h

theorem isSome_neighbour {m e num den : Nat} {k : Int}
    (hgrid : scaleDown (m * 2 ^ e) (2 ^ 1074) k = (num, den))
    (h : readsBack m e (num / den) k = true ∨ readsBack m e (num / den + 1) k = true) :
    (neighbour m e k).isSome = true := by
  unfold neighbour ratio
  dsimp only
  rw [hgrid]
  dsimp only
  by_cases hhigh : readsBack m e (num / den + 1) k = true
  · rw [hhigh]
    split <;> rfl
  · have hlow := h.resolve_right hhigh
    rw [Bool.eq_false_iff.mpr hhigh, hlow]
    rw [if_pos (by simp)]
    rfl

theorem readsBack_of_firstGrid {m e more : Nat} {k : Int} {d : Digits}
    (h : firstGrid m e more k = some d) : readsBack m e d.digits d.exponent = true := by
  induction more generalizing k with
  | zero => cases h
  | succ more ih =>
      rw [firstGrid] at h
      cases hneighbour : neighbour m e k with
      | some d' =>
          rw [hneighbour] at h
          cases h
          exact readsBack_of_neighbour hneighbour
      | none =>
          rw [hneighbour] at h
          exact ih h

theorem isSome_firstGrid {m e : Nat} (more : Nat) {j : Nat} {k : Int}
    (h : (neighbour m e k).isSome = true) (hj : j < more) :
    (firstGrid m e more (k + j)).isSome = true := by
  induction j generalizing more with
  | zero =>
      cases more with
      | zero => exact absurd hj (Nat.lt_irrefl 0)
      | succ more =>
          rw [Int.natCast_zero, Int.add_zero, firstGrid]
          cases hneighbour : neighbour m e k with
          | some d => rfl
          | none =>
              rw [hneighbour] at h
              cases h
  | succ j ih =>
      cases more with
      | zero => exact absurd hj (Nat.not_lt_zero _)
      | succ more =>
          rw [firstGrid, show k + ((j + 1 : Nat) : Int) - 1 = k + j by omega]
          cases neighbour m e (k + ((j + 1 : Nat) : Int)) with
          | some d => rfl
          | none => exact ih more (Nat.lt_of_succ_lt_succ hj)

/-!
## Shortest digits
-/

theorem den_le_scaled {m : Nat} (hm : 0 < m) (e : Nat) : 2 ^ 1074 ≤ m * 2 ^ e * 10 ^ 340 :=
  calc 2 ^ 1074 ≤ 1 * 10 ^ 340 := by decide +kernel
    _ ≤ m * 2 ^ e * 10 ^ 340 := Nat.mul_le_mul_right _ (Nat.mul_pos hm (Nat.two_pow_pos e))

/-- On the grid with seventeen digits one of the two neighbours stands for the number. -/
theorem isSome_neighbour_of_seventeen {m e : Nat} (hm : 0 < m)
    (hcanonical : (finite false m e).Canonical) {k : Int}
    (hk : leadingExponent (m * 2 ^ e) (2 ^ 1074) = k + 16) :
    (neighbour m e k).isSome = true := by
  rcases leadingExponent_bounds hcanonical with ⟨hsmallest, hlargest⟩
  cases hgrid : scaleDown (m * 2 ^ e) (2 ^ 1074) k with
  | mk num den =>
      rcases leading_bounds (Nat.two_pow_pos _) (den_le_scaled hm e) hk hgrid with ⟨hfine, hcoarse⟩
      have hden : 0 < den := by
        cases den with
        | zero => exact absurd hcoarse (Nat.not_lt_zero _)
        | succ den => exact Nat.succ_pos den
      have hlow : 10 ^ 16 ≤ num / den := (Nat.le_div_iff_mul_le hden).mpr hfine
      have hhigh : num / den < 10 ^ 17 := (Nat.div_lt_iff_lt_mul hden).mpr hcoarse
      have hdivision := Nat.div_add_mod num den
      have hrest := Nat.mod_lt num hden
      rw [Nat.mul_comm] at hdivision
      apply isSome_neighbour hgrid
      have hreads : forall d, 10 ^ 16 ≤ d -> d ≤ 10 ^ 17 -> 2 * num ≤ 2 * (d * den) + den ->
          2 * (d * den) ≤ 2 * num + den -> readsBack m e d k = true := by
        intro d hleast hmost hbelow habove
        have hpos : 0 < d := Nat.lt_of_lt_of_le (by decide) hleast
        have hdigits : Literal.size d ≤ 18 :=
          (Literal.size_le_iff (by decide)).mpr (Nat.lt_of_le_of_lt hmost (by decide))
        exact readsBack_of_half hcanonical hpos (by omega) (by omega) hgrid hfine hbelow habove
      by_cases hnearer : 2 * (num % den) ≤ den
      · left
        apply hreads <;> omega
      · right
        have hnext : (num / den + 1) * den = num / den * den + den := Nat.succ_mul _ _
        apply hreads <;> omega

theorem exists_firstGrid {m e : Nat} (hm : 0 < m) (hcanonical : (finite false m e).Canonical) :
    exists d, firstGrid m e 17 (leadingExponent (ratio m e).1 (ratio m e).2) = some d := by
  rw [ratio]
  generalize hk : leadingExponent (m * 2 ^ e) (2 ^ 1074) = k
  have hgrid : (neighbour m e (k - 16)).isSome = true := by
    apply isSome_neighbour_of_seventeen hm hcanonical
    omega
  apply Option.isSome_iff_exists.mp
  rw [show k = k - 16 + (16 : Nat) by omega]
  exact isSome_firstGrid 17 hgrid (by decide)

theorem digits_pos_of_readsBack {m e d : Nat} {k : Int} (hm : 0 < m)
    (h : readsBack m e d k = true) : 0 < d := by
  have hreads : Literal.toBinary64 ⟨false, d, k⟩ = finite false m e := eq_of_beq h
  apply Nat.pos_of_ne_zero
  intro hzero
  rw [hzero] at hreads
  cases hreads
  exact Nat.lt_irrefl 0 hm

/-- Trailing zeros are dropped into the exponent. -/
theorem exists_zeros_of_dropZeros (fuel : Nat) {d : Digits} (hd : 0 < d.digits) :
    exists j : Nat, d.digits = (dropZeros fuel d).digits * 10 ^ j ∧
      (dropZeros fuel d).exponent = d.exponent + j ∧ 0 < (dropZeros fuel d).digits := by
  induction fuel generalizing d with
  | zero => exact ⟨0, (Nat.mul_one _).symm, (Int.add_zero _).symm, hd⟩
  | succ fuel ih =>
      rw [dropZeros]
      split
      · rename_i hzero
        have hpos : 0 < d.digits / 10 := by omega
        rcases @ih ⟨d.digits / 10, d.exponent + 1⟩ hpos with ⟨j, hdigits, hexponent, hkept⟩
        refine ⟨j + 1, ?_, ?_, hkept⟩
        · rw [Nat.pow_succ, ← Nat.mul_assoc, ← hdigits]
          dsimp only
          omega
        · rw [hexponent]
          dsimp only
          omega
      · exact ⟨0, (Nat.mul_one _).symm, (Int.add_zero _).symm, hd⟩

/-- The shortest digits of a number stand for it. -/
theorem toBinary64_shortest {m e : Nat} (hm : 0 < m) (hcanonical : (finite false m e).Canonical) :
    Literal.toBinary64 ⟨false, (shortest m e).digits, (shortest m e).exponent⟩ =
        finite false m e ∧
      0 < (shortest m e).digits := by
  rcases exists_firstGrid hm hcanonical with ⟨d, hd⟩
  have hshortest : shortest m e = dropZeros 20 d := by
    unfold shortest
    rw [hd, Option.elim_some]
  have hreads : Literal.toBinary64 ⟨false, d.digits, d.exponent⟩ = finite false m e :=
    eq_of_beq (readsBack_of_firstGrid hd)
  have hpos := digits_pos_of_readsBack hm (readsBack_of_firstGrid hd)
  rcases exists_zeros_of_dropZeros 20 hpos with ⟨j, hdigits, hexponent, hkept⟩
  rw [hshortest, hexponent]
  rw [hdigits, Literal.toBinary64_mul_pow hkept] at hreads
  exact ⟨hreads, hkept⟩

/-!
## The last digit
-/

theorem exists_neighbour_of_firstGrid {m e more : Nat} {k : Int} {d : Digits}
    (h : firstGrid m e more k = some d) :
    exists j : Nat, j < more ∧ neighbour m e (k - j) = some d := by
  induction more generalizing k with
  | zero => cases h
  | succ more ih =>
      rw [firstGrid] at h
      cases hneighbour : neighbour m e k with
      | some d' =>
          rw [hneighbour] at h
          cases h
          refine ⟨0, Nat.succ_pos more, ?_⟩
          rw [Int.natCast_zero, Int.sub_zero]
          exact hneighbour
      | none =>
          rw [hneighbour] at h
          rcases ih h with ⟨j, hj, hfound⟩
          refine ⟨j + 1, Nat.succ_lt_succ hj, ?_⟩
          rw [show k - ((j + 1 : Nat) : Int) = k - 1 - j by omega]
          exact hfound

theorem digits_le_of_neighbour {m e num den : Nat} {k : Int} {d : Digits}
    (hgrid : scaleDown (m * 2 ^ e) (2 ^ 1074) k = (num, den)) (h : neighbour m e k = some d) :
    d.digits ≤ num / den + 1 := by
  unfold neighbour ratio at h
  dsimp only at h
  rw [hgrid] at h
  dsimp only at h
  split at h
  · cases h
    exact Nat.le_succ _
  · split at h
    · cases h
      exact Nat.le_refl _
    · cases h

theorem digits_le_of_firstGrid {m e : Nat} (hm : 0 < m) {d : Digits}
    (h : firstGrid m e 17 (leadingExponent (ratio m e).1 (ratio m e).2) = some d) :
    d.digits ≤ 10 ^ 17 := by
  rcases exists_neighbour_of_firstGrid h with ⟨j, hj, hneighbour⟩
  rw [ratio] at hneighbour
  generalize hleading : leadingExponent (m * 2 ^ e) (2 ^ 1074) = leading at hneighbour
  cases hgrid : scaleDown (m * 2 ^ e) (2 ^ 1074) (leading - j) with
  | mk num den =>
      have hk := hleading.trans (Int.sub_add_cancel leading j).symm
      rcases leading_bounds (Nat.two_pow_pos _) (den_le_scaled hm e) hk hgrid with
        ⟨_hfine, hcoarse⟩
      have hpow : 10 ^ (j + 1) ≤ 10 ^ 17 := Nat.pow_le_pow_right (by decide) hj
      calc d.digits
          ≤ num / den + 1 := digits_le_of_neighbour hgrid hneighbour
        _ ≤ 10 ^ (j + 1) := Nat.div_lt_of_lt_mul (by rwa [Nat.mul_comm])
        _ ≤ 10 ^ 17 := hpow

theorem dropZeros_mod_ten_ne_zero {fuel : Nat} {d : Digits} (hpos : 0 < d.digits)
    (h : d.digits < 10 ^ fuel) : (dropZeros fuel d).digits % 10 ≠ 0 := by
  induction fuel generalizing d with
  | zero =>
      rw [Nat.pow_zero] at h
      omega
  | succ fuel ih =>
      rw [dropZeros]
      split
      · apply ih
        · dsimp only
          omega
        · rw [Nat.pow_succ] at h
          dsimp only
          omega
      · assumption

theorem shortest_mod_ten_ne_zero {m e : Nat} (hm : 0 < m)
    (hcanonical : (finite false m e).Canonical) : (shortest m e).digits % 10 ≠ 0 := by
  rcases exists_firstGrid hm hcanonical with ⟨d, hd⟩
  have hpos := digits_pos_of_readsBack hm (readsBack_of_firstGrid hd)
  have hlt : d.digits < 10 ^ 20 := Nat.lt_of_le_of_lt (digits_le_of_firstGrid hm hd) (by decide)
  unfold shortest
  rw [hd, Option.elim_some]
  exact dropZeros_mod_ten_ne_zero hpos hlt

end Decimal
end AnalysisHarness
