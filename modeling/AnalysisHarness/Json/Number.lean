import AnalysisHarness.Decimal.Layout
import AnalysisHarness.Json.Form

/-!
# JSON numbers

Integers of sixty-four bits keep their value. Every other number becomes a double-precision one:
as many digits as fit into sixty-four bits are scaled by a power of ten, each step rounded, which
is not always the nearest number to what is written.
-/

namespace AnalysisHarness
namespace Json

/-- The numbers that JSON values hold. -/
inductive Number where
  | natural (n : Nat)
  | negative (n : Nat)
  | double (d : Binary64)
  deriving DecidableEq, Repr

def Number.toBinary64 : Number -> Binary64
  | natural n => .ofNat false n
  | negative n => .ofNat true n
  | double d => d

def Number.write : Number -> List Char
  | natural n => Nat.toDigits 10 n
  | negative n => '-' :: Nat.toDigits 10 n
  | double d => Decimal.Layout.compact.write d

def maxSignificand : Nat := 2 ^ 64 - 1

/--
Puts digits after a significand as long as it stays small enough. The answer is the significand
and the digits that did not fit.
-/
def takeDigits : Nat -> List Char -> Nat × List Char
  | significand, [] => (significand, [])
  | significand, c :: rest =>
      let next := significand * 10 + (c.toNat - 48)
      if maxSignificand < next then (significand, c :: rest) else takeDigits next rest

def powerOfTen (exponent : Nat) : Binary64 := .ofNat false (10 ^ exponent)

/--
The significand scaled by a power of ten. A very small exponent is worked off in steps, of which
`fuel` many are enough to reach zero.
-/
def scale : Nat -> Binary64 -> Int -> Option Binary64
  | fuel, f, exponent =>
      if exponent.natAbs ≤ 308 then
        if 0 ≤ exponent then
          let product := f.mul (powerOfTen exponent.natAbs)
          if product.isInfinite then none else some product
        else some (f.div (powerOfTen exponent.natAbs))
      else if f.isZero then some f
      else if 0 ≤ exponent then none
      else
        match fuel with
        | 0 => some (.zero false)
        | fuel + 1 => scale fuel (f.div (powerOfTen 308)) (exponent + 308)

/-- The value of the digits of an exponent, if it fits into thirty-two bits with a sign. -/
def exponentValue? (digits : List Char) : Option Nat :=
  let value := Decimal.digitsValue digits
  if value < 2 ^ 31 then some value else none

def clampExponent (e : Int) : Int :=
  if e < -(2 ^ 31) then -(2 ^ 31) else if 2 ^ 31 - 1 < e then 2 ^ 31 - 1 else e

/-- The number that a text stands for; nothing if it is larger than all finite numbers. -/
def NumberText.value? (t : NumberText) : Option Number :=
  let (significand, beyond) := takeDigits 0 t.whole
  if beyond.isEmpty ∧ t.fraction.isEmpty ∧ t.exponent.isNone then
    if !t.negative then some (.natural significand)
    else if 0 < significand ∧ significand ≤ 2 ^ 63 then some (.negative significand)
    else some (.double (.ofNat true significand))
  else
    let (significand, dropped) := takeDigits significand t.fraction
    let start : Int := beyond.length - (t.fraction.length - dropped.length)
    let signed (f : Binary64) : Number := .double (if t.negative then f.neg else f)
    match t.exponent with
    | none => (scale 8 (.ofNat false significand) start).map signed
    | some (negative, digits) =>
        match exponentValue? digits with
        | none =>
            if significand ≠ 0 ∧ !negative then none else some (signed (.zero false))
        | some e =>
            let exponent := clampExponent (if negative then start - e else start + e)
            (scale 8 (.ofNat false significand) exponent).map signed

end Json
end AnalysisHarness
