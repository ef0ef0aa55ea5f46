import AnalysisHarness.Decimal.Binary64

/-!
# Rounding to double precision

A quotient is rounded in three steps: the unit is chosen, which is a power of two, the quotient is
rounded to a multiple of it, and a multiple that has become too large is carried over to the next
unit. The unit is the only one that fits the quotient, so nothing depends on how the quotient is
written. A quotient that is near to a number of double precision, compared with its size, is
rounded to that number.
-/

namespace AnalysisHarness
namespace Binary64

/-!
## Rounding to natural numbers
-/

theorem roundHalfEven_eq_or (num den : Nat) :
    roundHalfEven num den = num / den ∨ roundHalfEven num den = num / den + 1 := by
  unfold roundHalfEven
  dsimp only
  split
  · exact Or.inl rfl
  · split
    · exact Or.inr rfl
    · omega

theorem roundHalfEven_scale {c : Nat} (hc : 0 < c) (num den : Nat) :
    roundHalfEven (c * num) (c * den) = roundHalfEven num den := by
  unfold roundHalfEven
  have hdouble : 2 * (c * (num % den)) = c * (2 * (num % den)) := Nat.mul_left_comm 2 c _
  simp only [Nat.mul_div_mul_left num den hc, Nat.mul_mod_mul_left, hdouble,
    Nat.mul_lt_mul_left hc]

theorem roundHalfEven_of_near {num den m : Nat} (hlow : 2 * (m * den) < 2 * num + den)
    (hhigh : 2 * num < 2 * (m * den) + den) : roundHalfEven num den = m := by
  have hden : 0 < den := by omega
  have hdivision : den * (num / den) + num % den = num := Nat.div_add_mod num den
  have hrest : num % den < den := Nat.mod_lt num hden
  rw [Nat.mul_comm] at hdivision
  -- the quotient is the number or one less, and the rest tells which
  have hquotient : num / den = m ∨ num / den + 1 = m := by
    rcases Nat.lt_trichotomy (num / den) m with hless | heq | hmore
    · right
      apply Nat.le_antisymm hless
      apply Nat.le_of_not_lt
      intro hfar
      have hle : (num / den + 2) * den ≤ m * den := Nat.mul_le_mul_right den hfar
      rw [Nat.add_mul] at hle
      omega
    · exact Or.inl heq
    · have hle : (m + 1) * den ≤ num / den * den := Nat.mul_le_mul_right den hmore
      rw [Nat.add_mul] at hle
      omega
  unfold roundHalfEven
  dsimp only
  rcases hquotient with rfl | rfl
  · rw [if_pos (by omega)]
  · rw [Nat.add_mul] at hlow
    rw [if_neg (by omega), if_pos (by omega)]

/-!
## The unit
-/

/-- An exponent fits a quotient: it has the digits of a significand before its point. -/
structure Fitting (num den e : Nat) : Prop where
  below : num < 2 ^ (e + 53) * den
  above : e = 0 ∨ 2 ^ (e + 52) * den ≤ num

theorem fitting_unitExponent {den : Nat} (hden : 0 < den) (num : Nat) :
    Fitting num den (unitExponent num den) := by
  unfold unitExponent
  split
  · rename_i hsmall
    exact ⟨(Nat.div_lt_iff_lt_mul hden).mp hsmall, Or.inl rfl⟩
  · rename_i hlarge
    have hpos : num / den ≠ 0 := by omega
    have hlog : 53 ≤ Nat.log2 (num / den) := by
      apply Nat.le_of_not_lt
      intro hlt
      exact hlarge ((Nat.log2_lt hpos).mp hlt)
    rcases (Nat.log2_eq_iff hpos).mp rfl with ⟨hlow, hhigh⟩
    have hunit : Nat.log2 (num / den) - 52 + 52 = Nat.log2 (num / den) := by omega
    constructor
    · apply (Nat.div_lt_iff_lt_mul hden).mp
      rw [show Nat.log2 (num / den) - 52 + 53 = Nat.log2 (num / den) + 1 by omega]
      exact hhigh
    · right
      rw [hunit]
      exact (Nat.le_div_iff_mul_le hden).mp hlow

theorem Fitting.le {num den e e' : Nat} (h : Fitting num den e) (h' : Fitting num den e') :
    e ≤ e' := by
  rcases h.above with rfl | habove
  · exact Nat.zero_le e'
  · have hpow : 2 ^ (e + 52) < 2 ^ (e' + 53) :=
      Nat.lt_of_mul_lt_mul_right (Nat.lt_of_le_of_lt habove h'.below)
    have hlt := (Nat.pow_lt_pow_iff_right (by decide)).mp hpow
    omega

theorem Fitting.eq_unitExponent {num den e : Nat} (hden : 0 < den) (h : Fitting num den e) :
    unitExponent num den = e :=
  Nat.le_antisymm ((fitting_unitExponent hden num).le h) (h.le (fitting_unitExponent hden num))

theorem Fitting.scale {num den e : Nat} (h : Fitting num den e) {c : Nat} (hc : 0 < c) :
    Fitting (c * num) (c * den) e := by
  constructor
  · rw [Nat.mul_left_comm]
    exact Nat.mul_lt_mul_of_pos_left h.below hc
  · rcases h.above with hzero | habove
    · exact Or.inl hzero
    · right
      rw [Nat.mul_left_comm]
      exact Nat.mul_le_mul_left c habove

/-!
## Rounding
-/

theorem ofRatio_eq_ofUnits {num den e : Nat} (hden : 0 < den)
    (h : Fitting (num * 2 ^ 1074) den e) (negative : Bool) :
    ofRatio negative num den =
      ofUnits negative (roundHalfEven (num * 2 ^ 1074) (den * 2 ^ e)) e := by
  rw [← h.eq_unitExponent hden]
  unfold ofRatio
  exact Eq.refl _

theorem ofRatio_scale {c den : Nat} (hc : 0 < c) (hden : 0 < den) (negative : Bool) (num : Nat) :
    ofRatio negative (c * num) (c * den) = ofRatio negative num den := by
  have hunit := fitting_unitExponent hden (num * 2 ^ 1074)
  have hscaled := hunit.scale hc
  rw [← Nat.mul_assoc] at hscaled
  rw [ofRatio_eq_ofUnits (Nat.mul_pos hc hden) hscaled, ofRatio_eq_ofUnits hden hunit,
    Nat.mul_assoc, Nat.mul_assoc, roundHalfEven_scale hc]

/-- Double-precision numbers in canonical form. -/
def Canonical : Binary64 -> Prop
  | finite _ m e => m < 2 ^ 53 ∧ (e = 0 ∨ 2 ^ 52 ≤ m) ∧ e ≤ maxExponent
  | _ => True

theorem canonical_ofUnits {m e : Nat} (hm : m ≤ 2 ^ 53) (he : e = 0 ∨ 2 ^ 52 ≤ m)
    (negative : Bool) : (ofUnits negative m e).Canonical := by
  unfold ofUnits
  by_cases hcarry : m = 2 ^ 53
  · rw [if_pos hcarry]
    split
    · exact trivial
    · exact ⟨by decide, Or.inr (Nat.le_refl _), by omega⟩
  · rw [if_neg hcarry]
    split
    · exact trivial
    · exact ⟨by omega, he, by omega⟩

theorem canonical_ofRatio {den : Nat} (hden : 0 < den) (negative : Bool) (num : Nat) :
    (ofRatio negative num den).Canonical := by
  have hunit := fitting_unitExponent hden (num * 2 ^ 1074)
  rw [ofRatio_eq_ofUnits hden hunit]
  generalize unitExponent (num * 2 ^ 1074) den = e at hunit
  generalize num * 2 ^ 1074 = scaled at hunit
  have hpos : 0 < den * 2 ^ e := Nat.mul_pos hden (Nat.two_pow_pos e)
  have hbelow : scaled / (den * 2 ^ e) < 2 ^ 53 := by
    apply (Nat.div_lt_iff_lt_mul hpos).mpr
    have hpow : 2 ^ 53 * (den * 2 ^ e) = 2 ^ (e + 53) * den := by
      rw [Nat.pow_add, Nat.mul_comm den, ← Nat.mul_assoc, Nat.mul_comm (2 ^ 53)]
    rw [hpow]
    exact hunit.below
  have hround := roundHalfEven_eq_or scaled (den * 2 ^ e)
  apply canonical_ofUnits
  · omega
  · rcases hunit.above with hzero | habove
    · exact Or.inl hzero
    · right
      have hle : 2 ^ 52 ≤ scaled / (den * 2 ^ e) := by
        apply (Nat.le_div_iff_mul_le hpos).mpr
        have hpow : 2 ^ 52 * (den * 2 ^ e) = 2 ^ (e + 52) * den := by
          rw [Nat.pow_add, Nat.mul_comm den, ← Nat.mul_assoc, Nat.mul_comm (2 ^ 52)]
        rw [hpow]
        exact habove
      omega

theorem canonical_zero (negative : Bool) : (zero negative).Canonical :=
  ⟨by decide, Or.inl rfl, Nat.zero_le _⟩

theorem canonical_ofNat (negative : Bool) (n : Nat) : (ofNat negative n).Canonical :=
  canonical_ofRatio (by decide) negative n

theorem canonical_neg {d : Binary64} (h : d.Canonical) : d.neg.Canonical := by
  cases d with
  | nan => exact trivial
  | infinite negative => exact trivial
  | finite negative m e => exact h

theorem canonical_mul (a b : Binary64) : (a.mul b).Canonical := by
  unfold mul
  split
  · exact trivial
  · exact trivial
  · split <;> exact trivial
  · split <;> exact trivial
  · -- the power is not to be computed
    generalize hden : 2 ^ 2148 = den
    have hpos : 0 < den := by
      rw [← hden]
      exact Nat.two_pow_pos 2148
    exact canonical_ofRatio hpos _ _

theorem canonical_div (a b : Binary64) : (a.div b).Canonical := by
  unfold div
  split
  · exact trivial
  · exact trivial
  · split <;> exact trivial
  · exact canonical_zero _
  · split
    · split <;> exact trivial
    · rename_i hn
      exact canonical_ofRatio (Nat.mul_pos (Nat.pos_of_ne_zero hn) (Nat.two_pow_pos _)) _ _

/-!
## Quotients near to a number
-/

/-- A quotient is nearer to a number of double precision than half of its last place. -/
structure Near (num den m e : Nat) : Prop where
  low : 2 ^ 54 * (m * (2 ^ e * den)) < 2 ^ 54 * num + m * (2 ^ e * den)
  high : 2 ^ 54 * num < 2 ^ 54 * (m * (2 ^ e * den)) + m * (2 ^ e * den)

theorem unit_eq (e k den : Nat) : 2 ^ (e + k) * den = 2 ^ k * (2 ^ e * den) := by
  rw [Nat.pow_add, Nat.mul_comm (2 ^ e), Nat.mul_assoc]

theorem ofUnits_of_canonical {negative : Bool} {m e : Nat}
    (h : (finite negative m e).Canonical) (negative' : Bool) :
    ofUnits negative' m e = finite negative' m e := by
  rcases h with ⟨hm, _he, hmax⟩
  unfold ofUnits
  rw [if_neg (Nat.ne_of_lt hm)]
  exact if_neg (Nat.not_lt.mpr hmax)

/-- Below a power of two the unit is half as large, and the significand is carried over. -/
theorem ofRatio_of_near_below {negative : Bool} {num den e : Nat} (hden : 0 < den)
    (hmax : e + 1 ≤ maxExponent) (h : Near (num * 2 ^ 1074) den (2 ^ 52) (e + 1))
    (hbelow : num * 2 ^ 1074 < 2 ^ (e + 53) * den) :
    ofRatio negative num den = finite negative (2 ^ 52) (e + 1) := by
  have hlow := h.low
  rw [Nat.pow_succ 2 e, Nat.mul_comm (2 ^ e) 2, Nat.mul_assoc 2] at hlow
  rw [unit_eq] at hbelow
  have hfitting : Fitting (num * 2 ^ 1074) den e := by
    generalize num * 2 ^ 1074 = scaled at hlow hbelow
    constructor
    · rw [unit_eq]
      exact hbelow
    · rw [unit_eq]
      omega
  have hround : roundHalfEven (num * 2 ^ 1074) (den * 2 ^ e) = 2 ^ 53 := by
    rw [Nat.mul_comm den]
    generalize num * 2 ^ 1074 = scaled at hlow hbelow
    apply roundHalfEven_of_near
    · omega
    · omega
  rw [ofRatio_eq_ofUnits hden hfitting, hround, ofUnits, if_pos rfl]
  exact if_neg (Nat.not_lt.mpr hmax)

/-- Only the least number with an exponent is near to a smaller one than all with that exponent. -/
theorem eq_of_near_of_below {scaled den m e : Nat} (hm : 2 ^ 52 ≤ m) (h : Near scaled den m e)
    (hbelow : scaled < 2 ^ (e + 52) * den) : m = 2 ^ 52 := by
  have hlow := h.low
  rw [unit_eq] at hbelow
  apply Nat.le_antisymm _ hm
  apply Nat.le_of_not_lt
  intro hmore
  have hle : (2 ^ 52 + 1) * (2 ^ e * den) ≤ m * (2 ^ e * den) := Nat.mul_le_mul_right _ hmore
  omega

/-- What is near to a number of double precision is rounded to it. -/
theorem ofRatio_of_near {negative : Bool} {num den m e : Nat} (hden : 0 < den)
    (hcanonical : (finite negative m e).Canonical) (h : Near (num * 2 ^ 1074) den m e) :
    ofRatio negative num den = finite negative m e := by
  rcases hcanonical with ⟨hm, he, hmax⟩
  have hsize : m * (2 ^ e * den) ≤ (2 ^ 53 - 1) * (2 ^ e * den) :=
    Nat.mul_le_mul_right _ (Nat.le_pred_of_lt hm)
  have hlow := h.low
  have hhigh := h.high
  by_cases hborder : 0 < e ∧ num * 2 ^ 1074 < 2 ^ (e + 52) * den
  · rcases hborder with ⟨hpos, hbelow⟩
    have hpower : m = 2 ^ 52 :=
      eq_of_near_of_below (he.resolve_left (Nat.ne_of_gt hpos)) h hbelow
    cases e with
    | zero => exact absurd hpos (Nat.lt_irrefl 0)
    | succ e =>
        rw [hpower] at h ⊢
        rw [show e + 1 + 52 = e + 53 by omega] at hbelow
        exact ofRatio_of_near_below hden hmax h hbelow
  · have hfitting : Fitting (num * 2 ^ 1074) den e := by
      rw [unit_eq] at hborder
      generalize num * 2 ^ 1074 = scaled at hlow hhigh hborder
      constructor
      · rw [unit_eq]
        omega
      · rw [unit_eq]
        omega
    have hround : roundHalfEven (num * 2 ^ 1074) (den * 2 ^ e) = m := by
      rw [Nat.mul_comm den]
      generalize num * 2 ^ 1074 = scaled at hlow hhigh
      apply roundHalfEven_of_near
      · omega
      · omega
    rw [ofRatio_eq_ofUnits hden hfitting, hround]
    exact ofUnits_of_canonical (show (finite negative m e).Canonical from ⟨hm, he, hmax⟩) negative

end Binary64
end AnalysisHarness
