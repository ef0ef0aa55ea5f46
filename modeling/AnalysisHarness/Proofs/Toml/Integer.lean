import AnalysisHarness.Proofs.Decimal.Digits
import AnalysisHarness.Proofs.Outcome
import AnalysisHarness.Toml.Reader

/-!
# Integers in documents

The decimal text of an integer of sixty-four bits stands for that integer wherever a value can
stand: it is taken neither for a date nor for a number in another base, and it ends where the
digits do.
-/

namespace AnalysisHarness
namespace Toml

open Decimal

/-!
## The ends of numbers
-/

def numberEnds : List Char := [' ', '\t', '\n', '\r', ',', '#', ']', '\x7d']

def EndsNumber (rest : List Char) : Prop :=
  forall c, rest.head? = some c -> c ∈ numberEnds

section Ends

variable {ds rest : List Char}

theorem EndsNumber.head?_ne (h : EndsNumber rest) {c : Char} (hc : c ∉ numberEnds) :
    rest.head? ≠ some c :=
  fun hhead => hc (h c hhead)

theorem isDigit_eq_false_of_mem_numberEnds :
    forall c, c ∈ numberEnds -> c.isDigit = false := by
  simp [numberEnds]

theorem EndsNumber.endsDigits (h : EndsNumber rest) : endsDigits rest = true := by
  cases rest with
  | nil => rfl
  | cons c rest =>
      have hc := isDigit_eq_false_of_mem_numberEnds c (h c rfl)
      rw [Decimal.endsDigits, hc, Bool.not_false]

theorem head?_append_ne (hdigits : forall c, c ∈ ds -> c.isDigit = true) (hrest : EndsNumber rest)
    {c : Char} (hc : c.isDigit = false) (hends : c ∉ numberEnds) :
    (ds ++ rest).head? ≠ some c := by
  cases ds with
  | nil => exact hrest.head?_ne hends
  | cons d ds => exact Numeral.head?_ne ⟨List.cons_ne_nil d ds, hdigits⟩ hc rest

/-!
## Digits
-/

theorem readDigits_cons {c : Char} {cs : List Char} (hc : c.isDigit = true)
    (hcs : cs.head? ≠ some '_') :
    readDigits Char.isDigit (c :: cs) =
      if endsDigits cs then .ok ([c], cs)
      else (readDigits Char.isDigit cs).map fun read => (c :: read.1, read.2) := by
  cases cs with
  | nil => simp [readDigits, hc, Decimal.endsDigits]
  | cons d more =>
      have hd : d ≠ '_' := fun heq => hcs (congrArg some heq)
      rw [readDigits]
      · rw [if_pos hc]
        dsimp only
        cases hdigit : d.isDigit with
        | true =>
            simp [Decimal.endsDigits, hdigit]
            rfl
        | false => simp [Decimal.endsDigits, hdigit]
      · intro rest heq
        exact hd (List.cons.inj heq).1

theorem readDigits_numeral (h : Numeral ds) (hrest : EndsNumber rest) :
    readDigits Char.isDigit (ds ++ rest) = .ok (ds, rest) := by
  rcases h with ⟨hne, hdigits⟩
  induction ds with
  | nil => exact absurd rfl hne
  | cons c ds ih =>
      rcases List.forall_mem_cons.mp hdigits with ⟨hc, hds⟩
      have hunderscore := head?_append_ne hds hrest (c := '_') (by decide) (by decide)
      rw [List.cons_append, readDigits_cons hc hunderscore]
      cases ds with
      | nil => rw [List.nil_append, hrest.endsDigits, if_pos rfl]
      | cons d ds =>
          have hmore : ¬Decimal.endsDigits (d :: ds ++ rest) = true := by
            rw [List.cons_append, Decimal.endsDigits, hds d List.mem_cons_self]
            exact Bool.false_ne_true
          rw [if_neg hmore, ih (List.cons_ne_nil d ds) hds]
          rfl

/-!
## Dates
-/

theorem eq_of_readFixed (hrest : EndsNumber rest) {count value : Nat} {after : List Char}
    (h : readFixed count (ds ++ rest) = some (value, after)) :
    after = ds.drop count ++ rest := by
  unfold readFixed at h
  dsimp only at h
  split at h
  · rename_i htaken
    cases h
    by_cases hcount : count ≤ ds.length
    · exact List.drop_append_of_le_length hcount
    · -- what follows the digits would have to be a digit too
      rcases htaken with ⟨hlength, hall⟩
      rw [List.all_eq_true] at hall
      cases rest with
      | nil =>
          rw [List.append_nil, List.length_take] at hlength
          omega
      | cons c rest =>
          have hmem : c ∈ (ds ++ c :: rest).take count := by
            rw [List.take_append, show count - ds.length = count - ds.length - 1 + 1 by omega,
              List.take_succ_cons]
            exact List.mem_append_right _ List.mem_cons_self
          have hc := isDigit_eq_false_of_mem_numberEnds c (hrest c rfl)
          rw [hall c hmem] at hc
          cases hc
  · cases h

theorem readFixed_signed_ne {negative : Bool} {sign : List Char}
    (hsign : SignWritten negative sign) (h : Numeral ds) (hrest : EndsNumber rest) {c : Char}
    (hc : c.isDigit = false) (hends : c ∉ numberEnds) {count value : Nat} {more : List Char} :
    readFixed (count + 1) (sign ++ (ds ++ rest)) ≠ some (value, c :: more) := by
  intro hread
  have hsigned : forall d, d.isDigit = false ->
      readFixed (count + 1) (d :: (ds ++ rest)) ≠ some (value, c :: more) := by
    intro d hd
    simp [readFixed, hd]
  cases hsign with
  | none =>
      have hdropped : forall d, d ∈ ds.drop (count + 1) -> d.isDigit = true :=
        fun d hmem => h.digits d (List.mem_of_mem_drop hmem)
      apply head?_append_ne hdropped hrest hc hends
      rw [← eq_of_readFixed hrest hread]
      rfl
  | plus => exact hsigned '+' rfl hread
  | minus => exact hsigned '-' rfl hread

theorem readTime?_of_numeral {negative : Bool} {sign : List Char}
    (hsign : SignWritten negative sign) (h : Numeral ds) (hrest : EndsNumber rest) :
    readTime? (sign ++ (ds ++ rest)) = none := by
  unfold readTime?
  split
  · rename_i hread
    exact absurd hread (readFixed_signed_ne hsign h hrest (by decide) (by decide))
  · rfl

theorem readMoment?_of_numeral {negative : Bool} {sign : List Char}
    (hsign : SignWritten negative sign) (h : Numeral ds) (hrest : EndsNumber rest) :
    readMoment? (sign ++ (ds ++ rest)) = none := by
  unfold readMoment?
  split
  · rename_i hread
    exact absurd hread (readFixed_signed_ne hsign h hrest (by decide) (by decide))
  · rw [readTime?_of_numeral hsign h hrest, Option.map_none]

end Ends

/-!
## Integers
-/

section Integers

variable {rest : List Char}

theorem readSign_eq (cs : List Char) : readSign cs = Decimal.readSign cs := rfl

theorem readWhole_toDigits (n : Nat) (hrest : EndsNumber rest) :
    readWhole (Nat.toDigits 10 n ++ rest) = .ok (Nat.toDigits 10 n, rest) := by
  cases Nat.eq_zero_or_pos n with
  | inl hzero =>
      rw [hzero]
      rfl
  | inr hpos =>
      unfold readWhole
      split
      · rename_i hfirst
        exact absurd (congrArg List.head? hfirst) (head?_toDigits_append_ne_zero hpos rest)
      · exact readDigits_numeral (numeral_toDigits n) hrest

theorem readFraction_of_ends (hrest : EndsNumber rest) :
    readFraction rest = .ok (none, rest) := by
  unfold readFraction
  split
  · exact absurd rfl (hrest.head?_ne (c := '.') (by decide))
  · rfl

theorem readExponent_of_ends (hrest : EndsNumber rest) :
    readExponent rest = .ok (none, rest) := by
  unfold readExponent
  cases rest with
  | nil => rfl
  | cons c rest =>
      dsimp only
      rw [if_neg]
      rintro (rfl | rfl)
      · exact absurd rfl (hrest.head?_ne (c := 'e') (by decide))
      · exact absurd rfl (hrest.head?_ne (c := 'E') (by decide))

theorem integerValue_of_bounds {n : Int} (hlow : -2 ^ 63 ≤ n) (hhigh : n < 2 ^ 63) :
    integerValue (decide (n < 0)) n.natAbs = .ok (.integer n) := by
  unfold integerValue
  by_cases hneg : n < 0
  · rw [decide_eq_true hneg, if_pos rfl, if_pos (by omega),
      show -(n.natAbs : Int) = n by omega]
  · rw [decide_eq_false hneg, if_neg Bool.false_ne_true, if_pos (by omega),
      show (n.natAbs : Int) = n by omega]

theorem readDecimal_integer {n : Int} (hlow : -2 ^ 63 ≤ n) (hhigh : n < 2 ^ 63)
    (hrest : EndsNumber rest) {sign : List Char} (hsign : SignWritten (decide (n < 0)) sign) :
    readDecimal (sign ++ (Nat.toDigits 10 n.natAbs ++ rest)) = .ok (.integer n, rest) := by
  unfold readDecimal
  rw [readSign_eq, readSign_of_written hsign (numeral_toDigits n.natAbs)]
  refine bind_eq_ok (readWhole_toDigits n.natAbs hrest) ?_
  refine bind_eq_ok (readFraction_of_ends hrest) ?_
  refine bind_eq_ok (readExponent_of_ends hrest) ?_
  rw [digitsValue_toDigits]
  exact bind_eq_ok (integerValue_of_bounds hlow hhigh) rfl

theorem ne_zero_marked {negative : Bool} {sign : List Char} (hsign : SignWritten negative sign)
    (n : Nat) (hrest : EndsNumber rest) {mark : Char} (hends : mark ∉ numberEnds)
    (more : List Char) :
    sign ++ (Nat.toDigits 10 n ++ rest) ≠ '0' :: mark :: more := by
  intro heq
  cases hsign with
  | plus => cases heq
  | minus => cases heq
  | none =>
      cases Nat.eq_zero_or_pos n with
      | inl hzero =>
          rw [hzero] at heq
          exact hrest.head?_ne hends (congrArg List.head? (List.cons.inj heq).2)
      | inr hpos => exact head?_toDigits_append_ne_zero hpos rest (congrArg List.head? heq)

/-- Digits without a needless zero in front are no number in another base. -/
theorem readNumber_eq_readDecimal {negative : Bool} {sign : List Char}
    (hsign : SignWritten negative sign) (n : Nat) (hrest : EndsNumber rest) :
    readNumber (sign ++ (Nat.toDigits 10 n ++ rest)) =
      readDecimal (sign ++ (Nat.toDigits 10 n ++ rest)) := by
  have hdigits := numeral_toDigits n
  unfold readNumber
  rw [readSign_eq, readSign_of_written hsign hdigits]
  dsimp only
  split
  · rename_i hinf
    exact absurd (congrArg List.head? hinf) (hdigits.head?_ne (by decide) rest)
  · rename_i hnan
    exact absurd (congrArg List.head? hnan) (hdigits.head?_ne (by decide) rest)
  · split
    · rename_i hbased
      exact absurd hbased (ne_zero_marked hsign n hrest (by decide) _)
    · rename_i hbased
      exact absurd hbased (ne_zero_marked hsign n hrest (by decide) _)
    · rename_i hbased
      exact absurd hbased (ne_zero_marked hsign n hrest (by decide) _)
    · rfl

theorem exists_first {negative : Bool} {sign ds : List Char} (hsign : SignWritten negative sign)
    (h : Numeral ds) (rest : List Char) :
    exists c cs, sign ++ (ds ++ rest) = c :: cs ∧
      (c.isDigit = true ∨ c = '+' ∨ c = '-') := by
  cases hsign with
  | plus => exact ⟨'+', ds ++ rest, rfl, Or.inr (Or.inl rfl)⟩
  | minus => exact ⟨'-', ds ++ rest, rfl, Or.inr (Or.inr rfl)⟩
  | none =>
      cases ds with
      | nil => exact absurd rfl h.nonempty
      | cons d ds => exact ⟨d, ds ++ rest, rfl, Or.inl (h.digits d List.mem_cons_self)⟩

def otherBeginnings : List Char := ['"', '\'', '[', '\x7b', 't', 'f']

theorem ne_otherBeginning :
    forall d, d ∈ otherBeginnings -> ¬(d.isDigit = true ∨ d = '+' ∨ d = '-') := by
  simp [otherBeginnings]

/-- The decimal text of an integer of sixty-four bits is read as that integer. -/
theorem readValue_integer {n : Int} (hlow : -2 ^ 63 ≤ n) (hhigh : n < 2 ^ 63)
    (hrest : EndsNumber rest) (depth fuel : Nat) :
    readValue depth (fuel + 1) ((toString n).toList ++ rest) = .ok (.integer n, rest) := by
  rcases exists_sign_toString n with ⟨sign, hsign, htext⟩
  have hdigits := numeral_toDigits n.natAbs
  have hscalar : readScalar (sign ++ (Nat.toDigits 10 n.natAbs ++ rest)) =
      .ok (.integer n, rest) := by
    unfold readScalar
    rw [readMoment?_of_numeral hsign hdigits hrest, readNumber_eq_readDecimal hsign _ hrest]
    exact readDecimal_integer hlow hhigh hrest hsign
  rcases exists_first hsign hdigits rest with ⟨c, cs, hcs, hc⟩
  rw [htext, List.append_assoc]
  rw [hcs] at hscalar ⊢
  unfold readValue
  dsimp only
  have hne : forall d, d ∈ otherBeginnings -> c ≠ d := by
    rintro d hd rfl
    exact ne_otherBeginning c hd hc
  have hquote : ¬(c = '"' ∨ c = '\'') :=
    fun hquote => hquote.elim (hne '"' (by decide)) (hne '\'' (by decide))
  rw [if_neg hquote, if_neg (hne '[' (by decide)), if_neg (hne '\x7b' (by decide))]
  split
  · rename_i htrue
    exact absurd (List.cons.inj htrue).1 (hne 't' (by decide))
  · rename_i hfalse
    exact absurd (List.cons.inj hfalse).1 (hne 'f' (by decide))
  · exact hscalar

end Integers

end Toml
end AnalysisHarness
