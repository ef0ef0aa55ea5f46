import AnalysisHarness.Json.Form
import AnalysisHarness.Proofs.Decimal.Digits
import AnalysisHarness.Proofs.Outcome
import AnalysisHarness.Text.Segments

/-!
# The grammar of JSON

A form can be written in many ways: with spaces between its parts, with characters of strings
escaped or not, with one mark of an exponent or the other. This module gives the grammar as
relations between forms and texts, part by part, and shows that whatever is written by the grammar
is read as the form that it is written for.
-/

namespace AnalysisHarness
namespace Json

open Text Decimal

/-!
## The grammar of strings and numbers
-/

inductive UnitWritten : StringUnit -> List Char -> Prop
  | plain {c : Char} (hquote : c ≠ '"') (hslash : c ≠ '\\') (hcontrol : ¬c.toNat < 32) :
      UnitWritten (.char c) [c]
  | letter {letter c : Char} (h : escapedChar? letter = some c) :
      UnitWritten (.char c) ['\\', letter]
  | code {a b c d : Char} (h : [a, b, c, d].all Unicode.isHexDigit = true) :
      UnitWritten (.unit (Unicode.readHex [a, b, c, d])) ['\\', 'u', a, b, c, d]

inductive UnitsWritten : List StringUnit -> List Char -> Prop
  | none : UnitsWritten [] []
  | more {u : StringUnit} {units : List StringUnit} {first rest : List Char}
      (h : UnitWritten u first) (hrest : UnitsWritten units rest) :
      UnitsWritten (u :: units) (first ++ rest)

inductive Quoted : List StringUnit -> List Char -> Prop
  | mk {units : List StringUnit} {inner : List Char} (h : UnitsWritten units inner) :
      Quoted units ('"' :: (inner ++ ['"']))

/-- A number: no needless zero stands in front, and fraction and exponent may be missing. -/
inductive NumberWritten : NumberText -> List Char -> Prop
  | mk {t : NumberText} {fraction exponent : List Char} (hwhole : Numeral t.whole)
      (hzero : ¬(1 < t.whole.length ∧ t.whole.head? = some '0'))
      (hfraction : FractionWritten t.fraction fraction)
      (hexponent : ExponentWritten t.exponent exponent) :
      NumberWritten t ((if t.negative then ['-'] else []) ++
        (t.whole ++ (fraction ++ exponent)))

/-!
## The grammar of values
-/

inductive KeyWritten : List StringUnit -> List Char -> Prop
  | mk {units : List StringUnit} {before quoted after : List Char}
      (hbefore : before.all isSpace = true) (h : Quoted units quoted)
      (hafter : after.all isSpace = true) : KeyWritten units (before ++ (quoted ++ after))

structure MemberPiece where
  key : List StringUnit
  keyText : List Char
  value : Form
  valueText : List Char

namespace MemberPiece

def member (piece : MemberPiece) : List StringUnit × Form := (piece.key, piece.value)

def text (piece : MemberPiece) : List Char := piece.keyText ++ ':' :: piece.valueText

theorem length_text (piece : MemberPiece) :
    piece.text.length = piece.keyText.length + (piece.valueText.length + 1) := by
  rw [text, List.length_append, List.length_cons]

end MemberPiece

/-- A form in one of the ways in which it is written, with spaces around it or not. -/
inductive Written : Form -> List Char -> Prop
  | null : Written .null ['n', 'u', 'l', 'l']
  | true : Written (.bool true) ['t', 'r', 'u', 'e']
  | false : Written (.bool false) ['f', 'a', 'l', 's', 'e']
  | number {t : NumberText} {cs : List Char} (h : NumberWritten t cs) : Written (.number t) cs
  | string {units : List StringUnit} {cs : List Char} (h : Quoted units cs) :
      Written (.string units) cs
  | noItems {blanks : List Char} (hblanks : blanks.all isSpace = true) :
      Written (.array []) ('[' :: (blanks ++ [']']))
  | items {first : Form × List Char} {more : List (Form × List Char)}
      (h : forall piece, piece ∈ first :: more -> Written piece.1 piece.2) :
      Written (.array ((first :: more).map Prod.fst))
        ('[' :: (joinSegments [','] ((first :: more).map Prod.snd) ++ [']']))
  | noMembers {blanks : List Char} (hblanks : blanks.all isSpace = true) :
      Written (.object []) ('\x7b' :: (blanks ++ ['\x7d']))
  | members {first : MemberPiece} {more : List MemberPiece}
      (hkeys : forall piece, piece ∈ first :: more -> KeyWritten piece.key piece.keyText)
      (h : forall piece, piece ∈ first :: more -> Written piece.value piece.valueText) :
      Written (.object ((first :: more).map MemberPiece.member))
        ('\x7b' :: (joinSegments [','] ((first :: more).map MemberPiece.text) ++ ['\x7d']))
  | spaced {form : Form} {before cs after : List Char} (hbefore : before.all isSpace = true)
      (h : Written form cs) (hafter : after.all isSpace = true) :
      Written form (before ++ (cs ++ after))

theorem blanks_append_written {form : Form} {blanks cs : List Char} (h : Written form cs)
    (hblanks : blanks.all isSpace = true) : Written form (blanks ++ cs) := by
  have hspaced := Written.spaced hblanks h (List.all_nil (f := isSpace))
  rw [List.append_nil] at hspaced
  exact hspaced

theorem written_append_blanks {form : Form} {cs blanks : List Char} (h : Written form cs)
    (hblanks : blanks.all isSpace = true) : Written form (cs ++ blanks) :=
  Written.spaced (List.all_nil (f := isSpace)) h hblanks

/-!
## Reading strings
-/

theorem readString_plain {c : Char} (hquote : c ≠ '"') (hslash : c ≠ '\\')
    (hcontrol : ¬c.toNat < 32) (rest : List Char) :
    readString (c :: rest) = consUnit (.char c) (readString rest) := by
  rw [readString]
  · apply if_neg
    rintro (hlow | hback)
    · exact hcontrol hlow
    · exact hslash hback
  · exact hquote
  · intro _ _ _ _ _ hback
    exact absurd hback hslash
  · intro _ _ hback
    exact absurd hback hslash

theorem readString_unit {u : StringUnit} {first : List Char} (h : UnitWritten u first)
    (rest : List Char) : readString (first ++ rest) = consUnit u (readString rest) := by
  cases h with
  | plain hquote hslash hcontrol => exact readString_plain hquote hslash hcontrol rest
  | letter h =>
      unfold escapedChar? at h
      split at h
      case h_9 => cases h
      all_goals
        cases h
        rfl
  | code h =>
      show readString ('\\' :: 'u' :: _ :: _ :: _ :: _ :: rest) = _
      rw [readString, if_pos h]

theorem readString_units {units : List StringUnit} {inner : List Char}
    (h : UnitsWritten units inner) (rest : List Char) :
    readString (inner ++ '"' :: rest) = .ok (units, rest) := by
  induction h with
  | none => rfl
  | more hunit _hrest ih =>
      rw [List.append_assoc, readString_unit hunit, ih]
      rfl

/-- A string is read up to and with its closing quotation mark. -/
theorem readString_quoted {units : List StringUnit} {text : List Char} (h : Quoted units text)
    (rest : List Char) :
    exists cs, text ++ rest = '"' :: cs ∧ readString cs = .ok (units, rest) := by
  cases h with
  | mk h =>
      rename_i inner
      exact ⟨inner ++ '"' :: rest, by simp, readString_units h rest⟩

/-!
## Reading numbers
-/

def endsNumber : List Char -> Bool
  | [] => true
  | c :: _ => !(c.isDigit || c == '.' || c == 'e' || c == 'E')

theorem of_endsNumber {c : Char} {rest : List Char} (h : endsNumber (c :: rest) = true) :
    c.isDigit = false ∧ c ≠ '.' ∧ ¬(c = 'e' ∨ c = 'E') := by
  simp only [endsNumber, Bool.not_eq_true', Bool.or_eq_false_iff, beq_eq_false_iff_ne] at h
  rcases h with ⟨⟨⟨hdigit, hpoint⟩, hsmall⟩, hlarge⟩
  exact ⟨hdigit, hpoint, fun heither => heither.elim hsmall hlarge⟩

theorem endsDigits_of_endsNumber {rest : List Char} (h : endsNumber rest = true) :
    endsDigits rest = true := by
  cases rest with
  | nil => rfl
  | cons c rest => simp [endsDigits, (of_endsNumber h).1]

theorem endsDigits_exponent {exponent : Option (Bool × List Char)} {text rest : List Char}
    (h : ExponentWritten exponent text) (hends : endsNumber rest = true) :
    endsDigits (text ++ rest) = true := by
  cases h with
  | none => exact endsDigits_of_endsNumber hends
  | digits hmark _hsign _h => rcases hmark with rfl | rfl <;> rfl

theorem endsDigits_fraction {fraction fractionText text : List Char}
    {exponent : Option (Bool × List Char)} (h : FractionWritten fraction fractionText)
    (hexponent : ExponentWritten exponent text) {rest : List Char}
    (hends : endsNumber rest = true) : endsDigits (fractionText ++ (text ++ rest)) = true := by
  cases h with
  | none =>
      rw [List.nil_append]
      exact endsDigits_exponent hexponent hends
  | digits _h => rfl

theorem head?_exponent_ne_point {exponent : Option (Bool × List Char)} {text rest : List Char}
    (h : ExponentWritten exponent text) (hends : endsNumber rest = true) :
    (text ++ rest).head? ≠ some '.' := by
  cases h with
  | none =>
      cases rest with
      | nil => simp
      | cons c rest => simpa using (of_endsNumber hends).2.1
  | digits hmark _hsign _h => rcases hmark with rfl | rfl <;> simp

theorem readFractionPart_written {fraction text exponentText rest : List Char}
    {exponent : Option (Bool × List Char)} (h : FractionWritten fraction text)
    (hexponent : ExponentWritten exponent exponentText) (hends : endsNumber rest = true) :
    readFractionPart (text ++ (exponentText ++ rest)) = .ok (fraction, exponentText ++ rest) := by
  cases h with
  | none =>
      have hpoint := head?_exponent_ne_point hexponent hends
      rw [List.nil_append]
      unfold readFractionPart
      split
      · rename_i hstarts
        rw [hstarts] at hpoint
        exact absurd rfl hpoint
      · rfl
  | digits hdigits =>
      have hspan := spanDigits_append hdigits.digits (endsDigits_exponent hexponent hends)
      rw [List.cons_append, readFractionPart, hspan]
      exact if_neg hdigits.isEmpty_ne_true

theorem readExponentPart_written {exponent : Option (Bool × List Char)} {text rest : List Char}
    (h : ExponentWritten exponent text) (hends : endsNumber rest = true) :
    readExponentPart (text ++ rest) = .ok (exponent, rest) := by
  cases h with
  | none =>
      rw [List.nil_append]
      cases rest with
      | nil => rfl
      | cons c rest => exact if_neg (of_endsNumber hends).2.2
  | digits hmark hsign hdigits =>
      have hspan := spanDigits_append hdigits.digits (endsDigits_of_endsNumber hends)
      rw [List.cons_append, List.append_assoc, readExponentPart, if_pos hmark,
        readSign_of_written hsign hdigits]
      dsimp only
      rw [hspan]
      exact if_neg hdigits.isEmpty_ne_true

/-- A number is read up to where it ends. -/
theorem readNumber_written {t : NumberText} {cs rest : List Char} (h : NumberWritten t cs)
    (hends : endsNumber rest = true) : readNumber (cs ++ rest) = .ok (t, rest) := by
  rcases t with ⟨negative, whole, fraction, exponent⟩
  cases h with
  | mk hwhole hzero hfraction hexponent =>
      rename_i fractionText exponentText
      dsimp only at hwhole hzero hfraction hexponent ⊢
      have hspan := spanDigits_append hwhole.digits
        (endsDigits_fraction hfraction hexponent hends)
      have hstart : ¬(whole.isEmpty = true ∨ (1 < whole.length ∧ whole.head? = some '0')) := by
        rintro (hempty | hneedless)
        · exact hwhole.isEmpty_ne_true hempty
        · exact hzero hneedless
      simp only [List.append_assoc]
      unfold readNumber
      split
      rename_i negative' cs hsign
      -- the sign is read, and nothing else is taken for one
      have hsigned : negative' = negative ∧
          cs = whole ++ (fractionText ++ (exponentText ++ rest)) := by
        cases negative with
        | true =>
            cases hsign
            exact ⟨rfl, rfl⟩
        | false =>
            have hhead := hwhole.head?_ne (c := '-') (by decide)
              (fractionText ++ (exponentText ++ rest))
            rw [if_neg Bool.false_ne_true, List.nil_append] at hsign
            split at hsign
            · rename_i hminus
              exact absurd (congrArg List.head? hminus) hhead
            · cases hsign
              exact ⟨rfl, rfl⟩
      rcases hsigned with ⟨rfl, rfl⟩
      rw [hspan]
      dsimp only
      rw [if_neg hstart]
      exact bind_eq_ok (readFractionPart_written hfraction hexponent hends)
        (bind_eq_ok (readExponentPart_written hexponent hends) rfl)

end Json
end AnalysisHarness
