import AnalysisHarness.Proofs.Json.Number

/-!
# Numbers that are printed anew

A number that was read is printed from what it stands for, not from its text. The texts of integers
of sixty-four bits come out as they went in. All other numbers are printed with their shortest
digits, so that a text is never the same again that ends its fraction with a needless zero or that
has neither a fraction nor an exponent.
-/

namespace AnalysisHarness
namespace Json

open Decimal

/-!
## Terse texts
-/

/--
A sign and digits with a fraction, or one digit, if need be with a fraction, and an exponent with a
sign. No zero ends the fraction unless it is all of it.
-/
inductive Terse : List Char -> Prop
  | positional {negative : Bool} {whole fraction : List Char} (hwhole : Numeral whole)
      (hzero : ¬(1 < whole.length ∧ whole.head? = some '0')) (hfraction : Numeral fraction)
      (hlast : 1 < fraction.length -> fraction.getLast? ≠ some '0') :
      Terse ((if negative then ['-'] else []) ++ (whole ++ '.' :: fraction))
  | scientific {negative small : Bool} {first : Char} {fraction fractionText ds : List Char}
      (hfirst : first.isDigit = true) (hfraction : FractionWritten fraction fractionText)
      (hlast : fraction.getLast? ≠ some '0') (h : Numeral ds) :
      Terse ((if negative then ['-'] else []) ++
        (first :: (fractionText ++ 'e' :: (if small then '-' else '+') :: ds)))

/-- A number with a fraction or an exponent whose fraction does not end with a needless zero. -/
structure Trimmed (t : NumberText) : Prop where
  marked : t.fraction ≠ [] ∨ t.exponent ≠ none
  last : 1 < t.fraction.length -> t.fraction.getLast? ≠ some '0'

theorem exists_trimmed_of_terse {text : List Char} (h : Terse text) :
    exists t, NumberWritten t text ∧ Trimmed t := by
  cases h with
  | @positional negative whole fraction hwhole hzero hfraction hlast =>
      have hwritten := NumberWritten.mk (t := ⟨negative, whole, fraction, none⟩) hwhole hzero
        (.digits hfraction) .none
      rw [List.append_nil] at hwritten
      exact ⟨_, hwritten, Or.inl hfraction.nonempty, hlast⟩
  | @scientific negative small first fraction fractionText ds hfirst hfraction hlast h =>
      have hwhole : Numeral [first] :=
        ⟨List.cons_ne_nil _ _, List.forall_mem_singleton.mpr hfirst⟩
      have hsign : SignWritten small [if small then '-' else '+'] := by
        cases small with
        | true => exact .minus
        | false => exact .plus
      have hwritten := NumberWritten.mk (t := ⟨negative, [first], fraction, some (small, ds)⟩)
        hwhole (fun hzero => Nat.lt_irrefl 1 hzero.1) hfraction
        (.digits (Or.inl rfl) hsign h)
      exact ⟨_, hwritten, Or.inr nofun, fun _ => hlast⟩

theorem eq_of_numberWritten {t t' : NumberText} {text : List Char} (h : NumberWritten t text)
    (h' : NumberWritten t' text) : t = t' := by
  have hread := @readNumber_written t text [] h rfl
  rw [@readNumber_written t' text [] h' rfl] at hread
  cases hread
  rfl

theorem trimmed_of_terse {t : NumberText} {text : List Char} (h : Terse text)
    (hwritten : NumberWritten t text) : Trimmed t := by
  rcases exists_trimmed_of_terse h with ⟨t', ht', htrimmed⟩
  cases eq_of_numberWritten hwritten ht'
  exact htrimmed

/-!
## Printed double-precision numbers
-/

/-- Digits set positionally end with a zero only behind a point that nothing else follows. -/
theorem terse_setPositional {d : Nat} (hd : 0 < d) (hlast : d % 10 ≠ 0) (negative : Bool)
    (k : Int) :
    Terse ((if negative then ['-'] else []) ++ setPositional (Nat.toDigits 10 d) k) := by
  have hdigits := numeral_toDigits d
  have hend := getLast?_toDigits_ne_zero hlast
  unfold setPositional
  by_cases hk : 0 ≤ k
  · have hwhole := hdigits.append fun _ hc => isDigit_of_mem_zeros (n := k.toNat) hc
    rw [if_pos hk]
    apply Terse.positional hwhole _ numeral_zero
    · exact fun hlong => absurd hlong (by decide)
    · exact fun hzero => head?_toDigits_append_ne_zero hd _ hzero.2
  · rw [if_neg hk]
    dsimp only
    by_cases hinside : (-k).toNat < (Nat.toDigits 10 d).length
    · have hpos : 0 < (Nat.toDigits 10 d).length - (-k).toNat := Nat.sub_pos_of_lt hinside
      have hlt : (Nat.toDigits 10 d).length - (-k).toNat < (Nat.toDigits 10 d).length := by
        omega
      rw [if_pos hinside]
      apply Terse.positional (hdigits.take hpos) _ (hdigits.drop hlt)
      · intro _hlong
        rw [List.getLast?_drop, if_neg (Nat.not_le_of_lt hlt)]
        exact hend
      · rintro ⟨_hlong, hzero⟩
        rw [List.head?_take, if_neg (Nat.ne_of_gt hpos)] at hzero
        exact head?_toDigits_ne_zero hd hzero
    · have hfraction : Numeral (zeros ((-k).toNat - (Nat.toDigits 10 d).length) ++
          Nat.toDigits 10 d) := by
        constructor
        · exact List.append_ne_nil_of_right_ne_nil _ hdigits.nonempty
        · exact List.forall_mem_append.mpr
            ⟨fun _ hc => isDigit_of_mem_zeros hc, hdigits.digits⟩
      rw [if_neg hinside, List.append_assoc "0.".toList]
      apply Terse.positional numeral_zero _ hfraction
      · intro _hlong
        rw [List.getLast?_append_of_ne_nil _ hdigits.nonempty]
        exact hend
      · exact fun hzero => absurd hzero.1 (by decide)

theorem terse_setScientific {d : Nat} (hlast : d % 10 ≠ 0) (negative : Bool) (leading : Int) :
    Terse ((if negative then ['-'] else []) ++ setScientific (Nat.toDigits 10 d) leading) := by
  have hdigits := numeral_toDigits d
  have hend := getLast?_toDigits_ne_zero hlast
  unfold setScientific
  cases hds : Nat.toDigits 10 d with
  | nil => exact absurd hds Nat.toDigits_ne_nil
  | cons c ds =>
      rw [hds] at hdigits hend
      rcases List.forall_mem_cons.mp hdigits.digits with ⟨hfirst, hmore⟩
      have hfraction : ds.getLast? ≠ some '0' := by
        cases ds with
        | nil => exact nofun
        | cons d ds =>
            rw [List.getLast?_cons_cons] at hend
            exact hend
      have hterse := @Terse.scientific negative (decide (leading < 0)) c ds _ _ hfirst
        (fractionWritten_rest hmore) hfraction (numeral_toDigits leading.natAbs)
      simp only [decide_eq_true_eq] at hterse
      exact hterse

theorem terse_write (l : Layout) {negative : Bool} {m e : Nat}
    (h : (Binary64.finite negative m e).Canonical) :
    Terse (l.write (.finite negative m e)) := by
  rw [Layout.write, Layout.magnitude]
  by_cases hm : m = 0
  · rw [if_pos hm]
    exact .positional numeral_zero (fun hzero => absurd hzero.1 (by decide)) numeral_zero
      (fun hlong => absurd hlong (by decide))
  · have hpos := (toBinary64_shortest (Nat.pos_of_ne_zero hm) h).2
    have hlast := shortest_mod_ten_ne_zero (Nat.pos_of_ne_zero hm) h
    rw [if_neg hm]
    dsimp only
    generalize (shortest m e).exponent = k
    generalize k + (Nat.toDigits 10 (shortest m e).digits).length - 1 = leading
    by_cases hset : l.isPositional leading = true
    · rw [if_pos hset]
      exact terse_setPositional hpos hlast negative k
    · rw [if_neg hset]
      exact terse_setScientific hlast negative leading

theorem terse_of_numberWritten {l : Layout} {d : Binary64} (h : d.Canonical) {t : NumberText}
    (hwritten : NumberWritten t (l.write d)) : Terse (l.write d) := by
  cases d with
  | nan => cases @readNumber_written t _ [] hwritten rfl
  | infinite negative => cases negative <;> cases @readNumber_written t _ [] hwritten rfl
  | finite negative m e => exact terse_write l h

/-!
## Printed integers
-/

/-- An integer of sixty-four bits, where no minus stands before a zero. -/
structure WordSized (t : NumberText) : Prop where
  fraction : t.fraction = []
  exponent : t.exponent = none
  range : if t.negative then 0 < digitsValue t.whole ∧ digitsValue t.whole ≤ 2 ^ 63
    else digitsValue t.whole < 2 ^ 64

theorem eq_integerText {t : NumberText} {token : List Char} (h : NumberWritten t token)
    (hfraction : t.fraction = []) (hexponent : t.exponent = none) :
    t = integerText t.negative (digitsValue t.whole) := by
  rcases t with ⟨negative, whole, fraction, exponent⟩
  cases hfraction
  cases hexponent
  cases h with
  | mk hwhole hzero _hfraction _hexponent =>
      rw [integerText, toDigits_digitsValue hwhole hzero]

theorem eq_of_integer {t : NumberText} {token token' : List Char} (hfraction : t.fraction = [])
    (hexponent : t.exponent = none) (h : NumberWritten t token) (h' : NumberWritten t token') :
    token = token' := by
  rcases t with ⟨negative, whole, fraction, exponent⟩
  cases hfraction
  cases hexponent
  rcases h with ⟨_, _, hfraction, hexponent⟩
  rcases h' with ⟨_, _, hfraction', hexponent'⟩
  cases hfraction with
  | digits hdigits => exact absurd rfl hdigits.nonempty
  | none =>
      cases hfraction' with
      | digits hdigits => exact absurd rfl hdigits.nonempty
      | none =>
          cases hexponent
          cases hexponent'
          rfl

theorem WordSized.exists_kept {t : NumberText} {token : List Char} (h : WordSized t)
    (hwritten : NumberWritten t token) : exists n : Number, n.Kept ∧ n.text? = some t := by
  have htext := eq_integerText hwritten h.fraction h.exponent
  have hrange := h.range
  generalize digitsValue t.whole = v at htext hrange
  rw [htext]
  cases hnegative : t.negative with
  | false =>
      rw [hnegative, if_neg Bool.false_ne_true] at hrange
      exact ⟨.natural v, .natural hrange, rfl⟩
  | true =>
      rw [hnegative, if_pos rfl] at hrange
      exact ⟨.negative v, .negative hrange.1 hrange.2, rfl⟩

theorem WordSized.write_eq {t : NumberText} {token : List Char} (h : WordSized t)
    (hwritten : NumberWritten t token) :
    exists n : Number, t.value? = some n ∧ n.write = token := by
  rcases h.exists_kept hwritten with ⟨n, hkept, htext⟩
  rcases hkept.value? with ⟨text, htext', hvalue⟩
  cases htext.symm.trans htext'
  exact ⟨n, hvalue, eq_of_integer h.fraction h.exponent (numberWritten_write htext) hwritten⟩

theorem ofDigitChars_of_takeDigits {digits : List Char} {start value : Nat}
    (h : takeDigits start digits = (value, [])) : Nat.ofDigitChars 10 digits start = value := by
  induction digits generalizing start with
  | nil =>
      cases h
      rfl
  | cons c digits ih =>
      rw [takeDigits] at h
      split at h
      · cases h
      · rw [Nat.ofDigitChars_cons, Nat.mul_comm]
        exact ih h

/-- What is no integer of sixty-four bits stands for a double-precision number. -/
theorem wordSized_or_double {t : NumberText} {n : Number} (h : t.value? = some n) :
    WordSized t ∨ exists d, n = .double d := by
  have hle := @takeDigits_le t.whole 0 (Nat.zero_le _)
  unfold NumberText.value? at h
  cases htake : takeDigits 0 t.whole with
  | mk significand beyond =>
      rw [htake] at h hle
      dsimp only at h hle
      split at h
      · rename_i hinteger
        rcases hinteger with ⟨hbeyond, hfraction, hexponent⟩
        rw [List.isEmpty_iff.mp hbeyond] at htake
        have hvalue : digitsValue t.whole = significand := by
          rw [digitsValue_eq_ofDigitChars, ofDigitChars_of_takeDigits htake]
        have hsized := WordSized.mk (List.isEmpty_iff.mp hfraction)
          (Option.isNone_iff_eq_none.mp hexponent)
        rw [hvalue] at hsized
        split at h
        · rename_i hpositive
          left
          apply hsized
          rw [if_neg (by simpa using hpositive)]
          unfold maxSignificand at hle
          omega
        · rename_i hnegative
          split at h
          · rename_i hrange
            left
            apply hsized
            rw [if_pos (by simpa using hnegative)]
            exact hrange
          · cases h
            exact Or.inr ⟨_, rfl⟩
      · right
        split at h
        · rcases Option.map_eq_some_iff.mp h with ⟨f, _hf, rfl⟩
          exact ⟨_, rfl⟩
        · split at h
          · split at h
            · cases h
            · cases h
              exact ⟨_, rfl⟩
          · rcases Option.map_eq_some_iff.mp h with ⟨f, _hf, rfl⟩
            exact ⟨_, rfl⟩

/--
Integers of sixty-four bits are printed as they were written. What other texts stand for is a
double-precision number, and none of them is printed as it was written unless it is terse.
-/
theorem reprinted {t : NumberText} {token : List Char} {n : Number} (h : NumberWritten t token)
    (hvalue : t.value? = some n) :
    (WordSized t -> n.write = token) ∧
    (¬WordSized t -> (exists d, n = .double d) ∧ (n.write = token -> Terse token)) := by
  constructor
  · intro hsized
    rcases hsized.write_eq h with ⟨n', hvalue', hwrite⟩
    cases hvalue.symm.trans hvalue'
    exact hwrite
  · intro hsized
    rcases (wordSized_or_double hvalue).resolve_left hsized with ⟨d, rfl⟩
    refine ⟨⟨d, rfl⟩, ?_⟩
    intro hsame
    rw [Number.write] at hsame
    cases sound_of_value? hvalue with
    | integer hkept => cases hkept
    | double hcanonical =>
        rw [← hsame] at h ⊢
        exact terse_of_numberWritten hcanonical h

end Json
end AnalysisHarness
