import AnalysisHarness.Json.Printer
import AnalysisHarness.Json.Value
import AnalysisHarness.Proofs.Json.Grammar

/-!
# Printed strings and integers

A printed string has one element for each of its characters, and a printed integer is its digits.
These elements and digits stand for the string and the integer that were printed, as long as an
integer fits into sixty-four bits.
-/

namespace AnalysisHarness
namespace Json

open Decimal

/-!
## Strings
-/

def printedUnit (c : Char) : StringUnit :=
  if c.toNat < 32 ∧ c ∉ ['\x08', '\x0c', '\n', '\r', '\t'] then .unit c.toNat else .char c

def printedUnits (s : String) : List StringUnit :=
  s.toList.map printedUnit

theorem isHexDigit_hexDigit :
    forall n, n < 16 -> Unicode.isHexDigit (hexDigit n) = true := by
  decide

theorem readHex_hexDigit :
    forall n, n < 32 ->
      Unicode.readHex ['0', '0', hexDigit (n / 16), hexDigit (n % 16)] = n := by
  decide

theorem unitWritten_hexEscape {c : Char} (h : c.toNat < 32) :
    UnitWritten (.unit c.toNat)
      ['\\', 'u', '0', '0', hexDigit (c.toNat / 16), hexDigit (c.toNat % 16)] := by
  have hhigh := isHexDigit_hexDigit (c.toNat / 16) (by omega)
  have hlow := isHexDigit_hexDigit (c.toNat % 16) (by omega)
  have hall : ['0', '0', hexDigit (c.toNat / 16), hexDigit (c.toNat % 16)].all
      Unicode.isHexDigit = true := by
    simp only [List.all_cons, List.all_nil, hhigh, hlow]
    decide
  have hcode := UnitWritten.code hall
  rw [readHex_hexDigit c.toNat h] at hcode
  exact hcode

theorem unitWritten_escapeChar (c : Char) : UnitWritten (printedUnit c) (escapeChar c) := by
  unfold escapeChar printedUnit
  by_cases hquote : c = '"'
  · subst hquote
    exact .letter rfl
  by_cases hslash : c = '\\'
  · subst hslash
    exact .letter rfl
  by_cases hletter : c ∈ ['\x08', '\x0c', '\n', '\r', '\t']
  · simp only [List.mem_cons, List.not_mem_nil, or_false] at hletter
    rcases hletter with rfl | rfl | rfl | rfl | rfl <;> exact .letter rfl
  · have hnot := hletter
    simp only [List.mem_cons, List.not_mem_nil, or_false, not_or] at hnot
    rcases hnot with ⟨hb, hf, hn, hr, ht⟩
    rw [if_neg hquote, if_neg hslash, if_neg hb, if_neg hf, if_neg hn, if_neg hr, if_neg ht]
    by_cases hcontrol : c.toNat < 32
    · rw [if_pos hcontrol, if_pos ⟨hcontrol, hletter⟩]
      exact unitWritten_hexEscape hcontrol
    · rw [if_neg hcontrol, if_neg fun h => hcontrol h.1]
      exact .plain hquote hslash hcontrol

theorem unitsWritten_escaped (cs : List Char) :
    UnitsWritten (cs.map printedUnit) (cs.flatMap escapeChar) := by
  induction cs with
  | nil => exact .none
  | cons c cs ih => exact .more (unitWritten_escapeChar c) ih

theorem quoted_quote (s : String) : Quoted (printedUnits s) (quote s) :=
  .mk (unitsWritten_escaped s.toList)

theorem resolveUnits_unit {code : Nat} (h : code < 32) (units : List StringUnit) :
    resolveUnits (.unit code :: units) =
      (resolveUnits units).map (Char.ofNat code :: ·) := by
  have hhigh : ¬(0xD800 ≤ code ∧ code < 0xDC00) := by omega
  have hlow : ¬(0xDC00 ≤ code ∧ code < 0xE000) := by omega
  have hsurrogate : ¬(0xD800 ≤ code ∧ code < 0xE000) := by omega
  cases units with
  | nil => simp [resolveUnits, hsurrogate]
  | cons first units =>
      cases first with
      | char c => simp [resolveUnits, hsurrogate]
      | unit low => simp [resolveUnits, hhigh, hlow]

theorem resolveUnits_printed (cs : List Char) :
    resolveUnits (cs.map printedUnit) = some cs := by
  induction cs with
  | nil => rfl
  | cons c cs ih =>
      rw [List.map_cons]
      by_cases hcontrol : c.toNat < 32 ∧ c ∉ ['\x08', '\x0c', '\n', '\r', '\t']
      · rw [printedUnit, if_pos hcontrol, resolveUnits_unit hcontrol.1, ih, Char.ofNat_toNat]
        rfl
      · rw [printedUnit, if_neg hcontrol, resolveUnits, ih]
        rfl

theorem resolveString_printed (s : String) : resolveString (printedUnits s) = some s := by
  rw [resolveString, printedUnits, resolveUnits_printed, Option.map_some, String.ofList_toList]

/-!
## Integers
-/

def integerText (negative : Bool) (n : Nat) : NumberText :=
  ⟨negative, Nat.toDigits 10 n, [], none⟩

theorem not_needless_zero (n : Nat) :
    ¬(1 < (Nat.toDigits 10 n).length ∧ (Nat.toDigits 10 n).head? = some '0') := by
  rintro ⟨hlong, hzero⟩
  cases n with
  | zero => exact absurd hlong (by decide)
  | succ n => exact head?_toDigits_ne_zero (Nat.succ_pos n) hzero

theorem numberWritten_integer (negative : Bool) (n : Nat) :
    NumberWritten (integerText negative n)
      ((if negative then ['-'] else []) ++ Nat.toDigits 10 n) := by
  have hwritten := NumberWritten.mk (t := integerText negative n) (numeral_toDigits n)
    (not_needless_zero n) .none .none
  rw [List.append_nil, List.append_nil] at hwritten
  exact hwritten

theorem le_ofDigitChars (digits : List Char) (start : Nat) :
    start ≤ Nat.ofDigitChars 10 digits start := by
  rw [Nat.ofDigitChars_eq_ofDigitChars_zero]
  have hpos : 0 < 10 ^ digits.length := Nat.pow_pos (by decide)
  have hle : start ≤ 10 ^ digits.length * start := Nat.le_mul_of_pos_left start hpos
  omega

theorem takeDigits_of_le {digits : List Char} {start : Nat}
    (h : Nat.ofDigitChars 10 digits start ≤ maxSignificand) :
    takeDigits start digits = (Nat.ofDigitChars 10 digits start, []) := by
  induction digits generalizing start with
  | nil => rfl
  | cons c digits ih =>
      have hnext : start * 10 + (c.toNat - 48) = 10 * start + (c.toNat - '0'.toNat) := by
        rw [Nat.mul_comm]
        rfl
      rw [Nat.ofDigitChars_cons] at h ⊢
      have hle := Nat.le_trans (le_ofDigitChars digits _) h
      show (if maxSignificand < start * 10 + (c.toNat - 48) then _ else _) = _
      rw [hnext, if_neg (Nat.not_lt.mpr hle)]
      exact ih h

/-- Integers that the reader keeps as they are. -/
inductive Number.Kept : Number -> Prop
  | natural {n : Nat} (h : n < 2 ^ 64) : Kept (.natural n)
  | negative {n : Nat} (hpos : 0 < n) (hle : n ≤ 2 ^ 63) : Kept (.negative n)

def Number.text? : Number -> Option NumberText
  | .natural n => some (integerText false n)
  | .negative n => some (integerText true n)
  | .double _ => none

theorem numberWritten_write {number : Number} {text : NumberText}
    (h : number.text? = some text) : NumberWritten text number.write := by
  cases number with
  | natural n =>
      cases h
      exact numberWritten_integer false n
  | negative n =>
      cases h
      exact numberWritten_integer true n
  | double d => cases h

theorem value?_integerText (negative : Bool) {n : Nat} (h : n < 2 ^ 64) :
    (integerText negative n).value? =
      if !negative then some (.natural n)
      else if 0 < n ∧ n ≤ 2 ^ 63 then some (.negative n)
      else some (.double (.ofNat true n)) := by
  have hvalue : Nat.ofDigitChars 10 (Nat.toDigits 10 n) 0 = n := Nat.ofDigitChars_ten_toDigits
  have htake : takeDigits 0 (Nat.toDigits 10 n) = (n, []) := by
    rw [takeDigits_of_le, hvalue]
    rw [hvalue]
    exact Nat.le_pred_of_lt h
  simp only [NumberText.value?, integerText, htake, List.isEmpty_nil, Option.isNone_none, and_self,
    if_true]

theorem Number.Kept.value? {number : Number} (h : number.Kept) :
    exists text, number.text? = some text ∧ text.value? = some number := by
  cases h with
  | natural hlt => exact ⟨_, rfl, value?_integerText false hlt⟩
  | negative hpos hle =>
      refine ⟨_, rfl, ?_⟩
      rw [value?_integerText true (Nat.lt_of_le_of_lt hle (by decide)), if_neg (by decide),
        if_pos ⟨hpos, hle⟩]

end Json
end AnalysisHarness
