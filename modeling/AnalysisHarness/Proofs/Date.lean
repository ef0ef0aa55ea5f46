import AnalysisHarness.Date
import AnalysisHarness.Proofs.Decimal.Digits
import AnalysisHarness.Proofs.Text.ByteOrder

/-!
# Dates and their stamps

A stamp says which day it is, whatever the year. Where years have four digits, stamps are in the
order of the days: the digits of the year, of the month and of the day stand one after another, each
in as many places as every other date has for them.
-/

namespace AnalysisHarness

open Decimal Text

/-!
## The order of digits
-/

theorem digitsValue_lt_of_lt {ds es : List Char} (hlength : ds.length = es.length)
    (hdigits : forall c, c ∈ ds -> c.isDigit = true) (hlt : ds < es) :
    digitsValue ds < digitsValue es := by
  induction ds using List.reverseRecOn generalizing es with
  | nil =>
      cases List.length_eq_zero_iff.mp hlength.symm
      exact absurd hlt (List.lt_irrefl [])
  | append_singleton ds c ih =>
      rcases List.eq_nil_or_concat es with rfl | ⟨es, e, rfl⟩
      · simp at hlength
      · rw [List.concat_eq_append] at hlength hlt ⊢
        simp only [List.length_append, List.length_singleton, Nat.add_right_cancel_iff] at hlength
        have hbounds := bounds_of_isDigit (hdigits c (List.mem_append_right ds List.mem_cons_self))
        rw [digitsValue_concat, digitsValue_concat]
        rcases (append_lt_append_iff hlength [c] [e]).mp hlt with hfirst | ⟨rfl, hlast⟩
        · have hless := ih hlength (fun d hd => hdigits d (List.mem_append_left [c] hd)) hfirst
          omega
        · rcases List.cons_lt_cons_iff.mp hlast with hchar | ⟨_heq, hnil⟩
          · have hless : c.toNat < e.toNat := hchar
            omega
          · exact absurd hnil (List.lt_irrefl [])

namespace Date

theorem digitsValue_padded (width n : Nat) : digitsValue (padded width n) = n := by
  rw [padded, digitsValue_append, digitsValue_replicate_zero, digitsValue_toDigits, Nat.zero_mul,
    Nat.zero_add]

theorem padded_inj {width m n : Nat} : padded width m = padded width n <-> m = n := by
  constructor
  · intro h
    rw [← digitsValue_padded width m, h, digitsValue_padded]
  · rintro rfl
    rfl

theorem numeral_padded (width n : Nat) : Numeral (padded width n) where
  nonempty := List.append_ne_nil_of_right_ne_nil _ Nat.toDigits_ne_nil
  digits c hc := by
    rcases List.mem_append.mp hc with hzero | hdigit
    · rw [List.eq_of_mem_replicate hzero]
      rfl
    · exact isDigit_of_mem_toDigits hdigit

theorem length_padded {width n : Nat} (hwidth : 0 < width) (h : n < 10 ^ width) :
    (padded width n).length = width := by
  have hle := (Nat.length_toDigits_le_iff (by decide) hwidth).mpr h
  rw [padded, List.length_append, List.length_replicate, Nat.sub_add_cancel hle]

theorem padded_lt_iff {width m n : Nat} (hwidth : 0 < width) (hm : m < 10 ^ width)
    (hn : n < 10 ^ width) : padded width m < padded width n <-> m < n := by
  have hrises : forall {m n}, m < 10 ^ width -> n < 10 ^ width ->
      padded width m < padded width n -> m < n := by
    intro m n hm hn hlt
    have hlength : (padded width m).length = (padded width n).length := by
      rw [length_padded hwidth hm, length_padded hwidth hn]
    have hvalue := digitsValue_lt_of_lt hlength (numeral_padded width m).digits hlt
    rwa [digitsValue_padded, digitsValue_padded] at hvalue
  constructor
  · exact hrises hm hn
  · intro hlt
    by_contra hnot
    rcases List.le_iff_lt_or_eq.mp (List.not_lt.mp hnot) with hback | hsame
    · exact absurd (hrises hn hm hback) (Nat.lt_asymm hlt)
    · exact absurd (padded_inj.mp hsame) (Nat.ne_of_gt hlt)

/-!
## Valid dates
-/

variable {d e : Date}

theorem daysInMonth_le (year : Int) (month : Nat) : daysInMonth year month ≤ 31 := by
  unfold daysInMonth
  repeat' split
  all_goals decide

theorem Valid.month_lt (h : d.Valid) : d.month < 10 ^ 2 :=
  Nat.lt_of_le_of_lt h.2.1 (by decide)

theorem Valid.day_lt (h : d.Valid) : d.day < 10 ^ 2 :=
  Nat.lt_of_le_of_lt (Nat.le_trans h.2.2.2 (daysInMonth_le d.year d.month)) (by decide)

theorem toList_stamp (d : Date) :
    d.stamp.toList = writeYear d.year ++ (padded 2 d.month ++ padded 2 d.day) := by
  rw [stamp, String.toList_ofList, List.append_assoc]

/-!
## Stamps tell the day
-/

theorem exists_sign_writeYear (year : Int) :
    exists sign, SignWritten (decide (year < 0)) sign ∧
      writeYear year = sign ++ padded 4 year.natAbs := by
  unfold writeYear
  split
  · rename_i hnegative
    rw [decide_eq_true hnegative]
    exact ⟨['-'], .minus, rfl⟩
  · rename_i hnot
    rw [decide_eq_false hnot]
    split
    · exact ⟨['+'], .plus, rfl⟩
    · exact ⟨[], .none, rfl⟩

theorem readSign_writeYear (year : Int) :
    readSign (writeYear year) = (decide (year < 0), padded 4 year.natAbs) := by
  rcases exists_sign_writeYear year with ⟨sign, hsign, hwritten⟩
  have hread := readSign_of_written hsign (numeral_padded 4 year.natAbs) []
  rw [List.append_nil] at hread
  rw [hwritten]
  exact hread

theorem writeYear_inj {year year' : Int} (h : writeYear year = writeYear year') : year = year' := by
  have hread := readSign_writeYear year
  rw [h, readSign_writeYear] at hread
  rcases Prod.mk.inj hread with ⟨hsign, hdigits⟩
  have hnegative := decide_eq_decide.mp hsign
  have hsize := padded_inj.mp hdigits
  omega

theorem not_mem_stamp {c : Char} (hc : c.isDigit = false) (hplus : c ≠ '+') (hminus : c ≠ '-')
    (d : Date) : c ∉ d.stamp.toList := by
  have hpadded : forall width n, c ∉ padded width n := by
    intro width n hmem
    rw [(numeral_padded width n).digits c hmem] at hc
    cases hc
  rcases exists_sign_writeYear d.year with ⟨sign, hsign, hwritten⟩
  generalize decide (d.year < 0) = negative at hsign
  rw [toList_stamp, hwritten, List.mem_append, List.mem_append, List.mem_append]
  rintro ((hmem | hmem) | hmem | hmem)
  · cases hsign with
    | none => cases hmem
    | plus => exact hplus (List.mem_singleton.mp hmem)
    | minus => exact hminus (List.mem_singleton.mp hmem)
  · exact hpadded _ _ hmem
  · exact hpadded _ _ hmem
  · exact hpadded _ _ hmem

/-- A stamp says which day it is, in any year. -/
theorem eq_of_stamp_eq (hd : d.Valid) (he : e.Valid) (h : d.stamp = e.stamp) : d = e := by
  have hchars := congrArg String.toList h
  rw [toList_stamp, toList_stamp] at hchars
  have hmonths : (padded 2 d.month).length = (padded 2 e.month).length := by
    rw [length_padded (by decide) hd.month_lt, length_padded (by decide) he.month_lt]
  have hdays : (padded 2 d.day).length = (padded 2 e.day).length := by
    rw [length_padded (by decide) hd.day_lt, length_padded (by decide) he.day_lt]
  -- the year takes any number of places, the rest always four
  rcases List.append_inj' hchars (by rw [List.length_append, List.length_append, hmonths, hdays])
    with ⟨hyear, hrest⟩
  rcases List.append_inj hrest hmonths with ⟨hmonth, hday⟩
  cases d
  cases e
  rw [Date.mk.injEq]
  exact ⟨writeYear_inj hyear, padded_inj.mp hmonth, padded_inj.mp hday⟩

/-!
## Stamps are in the order of the days
-/

/-- One date comes before another: in its year, then in its month, then in its day. -/
def Before (d e : Date) : Prop :=
  d.year < e.year ∨ d.year = e.year ∧ (d.month < e.month ∨ d.month = e.month ∧ d.day < e.day)

instance (d e : Date) : Decidable (d.Before e) :=
  inferInstanceAs (Decidable (d.year < e.year ∨
    d.year = e.year ∧ (d.month < e.month ∨ d.month = e.month ∧ d.day < e.day)))

structure InFourDigits (d : Date) : Prop where
  valid : d.Valid
  year_nonneg : 0 ≤ d.year
  year_le : d.year ≤ 9999

instance (d : Date) : Decidable d.InFourDigits :=
  decidable_of_iff (d.Valid ∧ 0 ≤ d.year ∧ d.year ≤ 9999)
    ⟨fun ⟨hvalid, hnonneg, hle⟩ => ⟨hvalid, hnonneg, hle⟩,
      fun h => ⟨h.valid, h.year_nonneg, h.year_le⟩⟩

theorem InFourDigits.year_lt (h : d.InFourDigits) : d.year.natAbs < 10 ^ 4 := by
  have hnonneg := h.year_nonneg
  have hle := h.year_le
  omega

theorem InFourDigits.writeYear_eq (h : d.InFourDigits) :
    writeYear d.year = padded 4 d.year.natAbs := by
  have hnonneg := h.year_nonneg
  have hle := h.year_le
  rw [writeYear, if_neg (by omega), if_neg (by omega)]

theorem InFourDigits.length_stamp (h : d.InFourDigits) : d.stamp.toList.length = 8 := by
  rw [toList_stamp, h.writeYear_eq, List.length_append, List.length_append,
    length_padded (by decide) h.year_lt, length_padded (by decide) h.valid.month_lt,
    length_padded (by decide) h.valid.day_lt]

theorem stamp_lt_iff (hd : d.InFourDigits) (he : e.InFourDigits) :
    d.stamp.toList < e.stamp.toList <-> d.Before e := by
  have hyears : (padded 4 d.year.natAbs).length = (padded 4 e.year.natAbs).length := by
    rw [length_padded (by decide) hd.year_lt, length_padded (by decide) he.year_lt]
  have hmonths : (padded 2 d.month).length = (padded 2 e.month).length := by
    rw [length_padded (by decide) hd.valid.month_lt, length_padded (by decide) he.valid.month_lt]
  have hnonneg := hd.year_nonneg
  have hnonneg' := he.year_nonneg
  rw [toList_stamp, toList_stamp, hd.writeYear_eq, he.writeYear_eq, append_lt_append_iff hyears,
    append_lt_append_iff hmonths, padded_lt_iff (by decide) hd.year_lt he.year_lt,
    padded_lt_iff (by decide) hd.valid.month_lt he.valid.month_lt,
    padded_lt_iff (by decide) hd.valid.day_lt he.valid.day_lt, padded_inj, padded_inj, Before]
  omega

end Date
end AnalysisHarness
