import AnalysisHarness.Decimal.Literal
import AnalysisHarness.Text.Blank
import Mathlib.Data.List.Induction

/-!
# Decimal digits

What is read of digits and of the sign in front of them, how fractions and exponents are written,
and what digits are worth: digits one after another, leading zeros, and the digits of a number,
whose length says between which powers of ten the number lies.
-/

namespace AnalysisHarness
namespace Decimal

/-!
## Runs of digits
-/

/-- At least one digit, and nothing else. -/
structure Numeral (ds : List Char) : Prop where
  nonempty : ds ≠ []
  digits : forall c, c ∈ ds -> c.isDigit = true

theorem isDigit_eq_false_of_isBlank {c : Char} (h : Text.isBlank c = true) :
    c.isDigit = false := by
  simp only [Text.isBlank, Bool.or_eq_true, Bool.and_eq_true, decide_eq_true_eq, beq_iff_eq] at h
  simp only [Char.isDigit, Bool.and_eq_false_iff, decide_eq_false_iff_not]
  have hval : c.toNat = c.val.toNat := rfl
  simp only [UInt32.le_iff_toNat_le, ge_iff_le]
  have hzero : ('0' : Char).val.toNat = 48 := rfl
  have hnine : ('9' : Char).val.toNat = 57 := rfl
  omega

theorem isBlank_eq_false_of_isDigit {c : Char} (h : c.isDigit = true) :
    Text.isBlank c = false := by
  cases hblank : Text.isBlank c with
  | false => rfl
  | true =>
      rw [isDigit_eq_false_of_isBlank hblank] at h
      cases h

theorem Numeral.isEmpty_ne_true {ds : List Char} (h : Numeral ds) : ¬ds.isEmpty = true :=
  fun hempty => h.nonempty (List.isEmpty_iff.mp hempty)

theorem Numeral.append {ds es : List Char} (h : Numeral ds)
    (hdigits : forall c, c ∈ es -> c.isDigit = true) : Numeral (ds ++ es) where
  nonempty := List.append_ne_nil_of_left_ne_nil h.nonempty es
  digits c hc := (List.mem_append.mp hc).elim (h.digits c) (hdigits c)

theorem Numeral.take {ds : List Char} (h : Numeral ds) {n : Nat} (hn : 0 < n) :
    Numeral (ds.take n) where
  nonempty hempty := (List.take_eq_nil_iff.mp hempty).elim (Nat.ne_of_gt hn) h.nonempty
  digits c hc := h.digits c (List.mem_of_mem_take hc)

theorem Numeral.drop {ds : List Char} (h : Numeral ds) {n : Nat} (hn : n < ds.length) :
    Numeral (ds.drop n) where
  nonempty hempty := Nat.not_le_of_lt hn (List.drop_eq_nil_iff.mp hempty)
  digits c hc := h.digits c (List.mem_of_mem_drop hc)

theorem Numeral.head?_ne {ds : List Char} (h : Numeral ds) {c : Char} (hc : c.isDigit = false)
    (rest : List Char) : (ds ++ rest).head? ≠ some c := by
  cases ds with
  | nil => exact absurd rfl h.nonempty
  | cons d ds =>
      intro hhead
      have hd := h.digits d List.mem_cons_self
      rw [Option.some.inj hhead, hc] at hd
      cases hd

def endsDigits : List Char -> Bool
  | [] => true
  | c :: _ => !c.isDigit

theorem spanDigits_append {ds rest : List Char} (hdigits : forall c, c ∈ ds -> c.isDigit = true)
    (hends : endsDigits rest = true) : spanDigits (ds ++ rest) = (ds, rest) := by
  unfold spanDigits
  rw [List.takeWhile_append_of_pos hdigits, List.dropWhile_append_of_pos hdigits]
  cases rest with
  | nil => simp
  | cons c rest =>
      have hc : c.isDigit = false := by simpa [endsDigits] using hends
      simp [hc]

theorem of_spanDigits {cs ds rest : List Char} (h : spanDigits cs = (ds, rest)) :
    cs = ds ++ rest ∧ forall c, c ∈ ds -> c.isDigit = true := by
  cases h
  exact ⟨List.takeWhile_append_dropWhile.symm,
    fun c hc => List.all_eq_true.mp List.all_takeWhile c hc⟩

theorem numeral_of_spanDigits {cs ds rest : List Char} (h : spanDigits cs = (ds, rest))
    (hsome : ¬ds.isEmpty = true) : Numeral ds where
  nonempty hempty := hsome (List.isEmpty_iff.mpr hempty)
  digits := (of_spanDigits h).2

/-!
## Signs
-/

inductive SignWritten : Bool -> List Char -> Prop
  | none : SignWritten false []
  | plus : SignWritten false ['+']
  | minus : SignWritten true ['-']

theorem readSign_of_written {negative : Bool} {sign ds : List Char}
    (hsign : SignWritten negative sign) (h : Numeral ds) (rest : List Char) :
    readSign (sign ++ (ds ++ rest)) = (negative, ds ++ rest) := by
  cases hsign with
  | plus => rfl
  | minus => rfl
  | none =>
      rw [List.nil_append]
      unfold readSign
      split
      · rename_i hminus
        exact absurd (congrArg List.head? hminus) (h.head?_ne (by decide) rest)
      · rename_i hplus
        exact absurd (congrArg List.head? hplus) (h.head?_ne (by decide) rest)
      · rfl

theorem exists_written_of_readSign {cs rest : List Char} {negative : Bool}
    (h : readSign cs = (negative, rest)) :
    exists sign, SignWritten negative sign ∧ cs = sign ++ rest := by
  unfold readSign at h
  split at h
  · cases h
    exact ⟨['-'], .minus, rfl⟩
  · cases h
    exact ⟨['+'], .plus, rfl⟩
  · cases h
    exact ⟨[], .none, rfl⟩

/-!
## Fractions and exponents
-/

inductive FractionWritten : List Char -> List Char -> Prop
  | none : FractionWritten [] []
  | digits {ds : List Char} (h : Numeral ds) : FractionWritten ds ('.' :: ds)

inductive ExponentWritten : Option (Bool × List Char) -> List Char -> Prop
  | none : ExponentWritten none []
  | digits {mark : Char} {negative : Bool} {sign ds : List Char} (hmark : mark = 'e' ∨ mark = 'E')
      (hsign : SignWritten negative sign) (h : Numeral ds) :
      ExponentWritten (some (negative, ds)) (mark :: (sign ++ ds))

/-!
## What digits are worth
-/

theorem digitsValue_eq_ofDigitChars (ds : List Char) :
    digitsValue ds = Nat.ofDigitChars 10 ds 0 := by
  rw [digitsValue, Nat.ofDigitChars_eq_foldl]
  congr 1
  funext value c
  rw [Nat.mul_comm]
  rfl

theorem digitsValue_append (ds es : List Char) :
    digitsValue (ds ++ es) = digitsValue ds * 10 ^ es.length + digitsValue es := by
  simp only [digitsValue_eq_ofDigitChars]
  rw [Nat.ofDigitChars_append, Nat.ofDigitChars_eq_ofDigitChars_zero, Nat.mul_comm]

@[simp] theorem digitsValue_replicate_zero (n : Nat) : digitsValue (List.replicate n '0') = 0 := by
  rw [digitsValue_eq_ofDigitChars, Nat.ofDigitChars_replicate_zero, Nat.mul_zero]

@[simp] theorem digitsValue_toDigits (n : Nat) : digitsValue (Nat.toDigits 10 n) = n := by
  rw [digitsValue_eq_ofDigitChars, Nat.ofDigitChars_ten_toDigits]

/-!
## The digits of a number
-/

theorem isDigit_of_mem_toDigits {n : Nat} {c : Char} (h : c ∈ Nat.toDigits 10 n) :
    c.isDigit = true :=
  Nat.isDigit_of_mem_toDigits (by decide) (by decide) h

theorem numeral_toDigits (n : Nat) : Numeral (Nat.toDigits 10 n) where
  nonempty := Nat.toDigits_ne_nil
  digits _ h := isDigit_of_mem_toDigits h

theorem digitChar_ne_zero : forall n, n < 10 -> 0 < n -> n.digitChar ≠ '0' := by
  decide

theorem bounds_of_isDigit {c : Char} (h : c.isDigit = true) : 48 ≤ c.toNat ∧ c.toNat ≤ 57 := by
  simp only [Char.isDigit, Bool.and_eq_true, decide_eq_true_eq, ge_iff_le,
    UInt32.le_iff_toNat_le] at h
  exact h

theorem digitChar_toNat_sub {c : Char} (h : c.isDigit = true) :
    (c.toNat - 48).digitChar = c := by
  have hbounds := bounds_of_isDigit h
  apply Char.toNat_inj.mp
  rw [Nat.toNat_digitChar_of_lt_ten (by omega)]
  omega

theorem digitsValue_concat (ds : List Char) (c : Char) :
    digitsValue (ds ++ [c]) = 10 * digitsValue ds + (c.toNat - 48) := by
  rw [digitsValue, List.foldl_append, Nat.mul_comm]
  rfl

theorem toList_toString (n : Nat) : (toString n).toList = Nat.toDigits 10 n :=
  String.toList_ofList

theorem exists_sign_toString (n : Int) :
    exists sign, SignWritten (decide (n < 0)) sign ∧
      (toString n).toList = sign ++ Nat.toDigits 10 n.natAbs := by
  cases n with
  | ofNat m => exact ⟨[], SignWritten.none, toList_toString m⟩
  | negSucc m =>
      rw [decide_eq_true (Int.negSucc_lt_zero m), ← toList_toString]
      exact ⟨['-'], SignWritten.minus, String.toList_append⟩

/-- Digits without a needless zero in front are the digits of what they are worth. -/
theorem toDigits_digitsValue {ds : List Char} (h : Numeral ds)
    (hzero : ¬(1 < ds.length ∧ ds.head? = some '0')) :
    Nat.toDigits 10 (digitsValue ds) = ds := by
  induction ds using List.reverseRecOn with
  | nil => exact absurd rfl h.nonempty
  | append_singleton es c ih =>
      have hc : c.isDigit = true := h.digits c (List.mem_append_right es List.mem_cons_self)
      have hlt : c.toNat - 48 < 10 := by
        have hbounds := bounds_of_isDigit hc
        omega
      have hlast : Nat.toDigits 10 (c.toNat - 48) = [c] := by
        rw [Nat.toDigits_of_lt_base hlt, digitChar_toNat_sub hc]
      rw [digitsValue_concat]
      by_cases hempty : es = []
      · rw [hempty]
        exact (congrArg (Nat.toDigits 10) (Nat.zero_add _)).trans hlast
      · have hmore : 1 < (es ++ [c]).length := by
          have hpos := List.length_pos_iff.mpr hempty
          rw [List.length_append, List.length_singleton]
          omega
        have hhead : es.head? ≠ some '0' := by
          intro hhead
          exact hzero ⟨hmore, by rw [List.head?_append, hhead, Option.some_or]⟩
        have hes : Numeral es := ⟨hempty, fun d hd => h.digits d (List.mem_append_left [c] hd)⟩
        have hfirst := ih hes fun hneedless => hhead hneedless.2
        have hpos : 0 < digitsValue es := by
          apply Nat.pos_of_ne_zero
          intro hworthless
          rw [hworthless] at hfirst
          exact hhead (congrArg List.head? hfirst).symm
        rw [← Nat.toDigits_append_toDigits (by decide) hpos hlt, hfirst, hlast]

theorem head?_toDigits_ne_zero {n : Nat} (h : 0 < n) : (Nat.toDigits 10 n).head? ≠ some '0' := by
  induction n using Nat.strongRecOn with
  | ind n ih =>
      rw [Nat.toDigits_eq_if (by decide)]
      split
      · rename_i hlt
        intro hhead
        exact digitChar_ne_zero n hlt h (Option.some.inj hhead)
      · rename_i hge
        rw [List.head?_append, Option.or_of_isSome (by simp [Nat.toDigits_ne_nil])]
        exact ih (n / 10) (by omega) (by omega)

theorem head?_toDigits_append_ne_zero {n : Nat} (h : 0 < n) (rest : List Char) :
    (Nat.toDigits 10 n ++ rest).head? ≠ some '0' := by
  intro hhead
  rw [List.head?_append, Option.or_of_isSome (by simp [Nat.toDigits_ne_nil])] at hhead
  exact head?_toDigits_ne_zero h hhead

theorem getLast?_toDigits_ne_zero {n : Nat} (h : n % 10 ≠ 0) :
    (Nat.toDigits 10 n).getLast? ≠ some '0' := by
  intro hlast
  rw [Nat.toDigits_eq_if (by decide)] at hlast
  split at hlast
  · rename_i hlt
    exact digitChar_ne_zero n hlt (by omega) (Option.some.inj hlast)
  · rw [List.getLast?_concat] at hlast
    have hlt := Nat.mod_lt n (show 0 < 10 by decide)
    exact digitChar_ne_zero (n % 10) hlt (Nat.pos_of_ne_zero h) (Option.some.inj hlast)

namespace Literal

theorem size_pos (n : Nat) : 0 < size n := Nat.length_toDigits_pos

theorem size_le_iff {n k : Nat} (hk : 0 < k) : size n ≤ k <-> n < 10 ^ k :=
  Nat.length_toDigits_le_iff (by decide) hk

theorem lt_pow_size (n : Nat) : n < 10 ^ size n := (size_le_iff (size_pos n)).mp (Nat.le_refl _)

theorem pow_size_le {n : Nat} (h : 0 < n) : 10 ^ (size n - 1) ≤ n := by
  by_cases hone : size n = 1
  · rw [hone]
    exact h
  · have hpos := size_pos n
    apply Nat.le_of_not_lt
    intro hlt
    have hle := (size_le_iff (by omega)).mpr hlt
    omega

theorem size_mul_ten {n : Nat} (h : 0 < n) : size (n * 10) = size n + 1 := by
  unfold size
  rw [Nat.toDigits_eq_if (n := n * 10) (by decide), if_neg (by omega),
    Nat.mul_div_cancel n (by decide), List.length_append, List.length_singleton]

end Literal

end Decimal
end AnalysisHarness
