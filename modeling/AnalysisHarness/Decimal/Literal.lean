import AnalysisHarness.Decimal.Binary64

/-!
# Decimal literals

Numbers written in decimal digits with an optional fraction and exponent, and the double-precision
numbers nearest to them.
-/

namespace AnalysisHarness
namespace Decimal

/-- The value of decimal digits; other characters count by their distance from zero. -/
def digitsValue (digits : List Char) : Nat :=
  digits.foldl (fun value c => value * 10 + (c.toNat - 48)) 0

/-- A number in decimal notation: `significand * 10 ^ exponent` with a sign. -/
structure Literal where
  negative : Bool
  significand : Nat
  exponent : Int
  deriving DecidableEq, Repr

namespace Literal

def size (n : Nat) : Nat := (Nat.toDigits 10 n).length

/--
The nearest double-precision number. An exponent so large or so small that only infinity or zero
is near is not raised to a power.
-/
def toBinary64 (l : Literal) : Binary64 :=
  let leading := l.exponent + size l.significand
  if l.significand = 0 then .zero l.negative
  else if 400 < leading then .infinite l.negative
  else if leading < -400 then .zero l.negative
  else if 0 ≤ l.exponent then
    .ofRatio l.negative (l.significand * 10 ^ l.exponent.toNat) 1
  else .ofRatio l.negative l.significand (10 ^ (-l.exponent).toNat)

end Literal

def spanDigits (cs : List Char) : List Char × List Char :=
  (cs.takeWhile Char.isDigit, cs.dropWhile Char.isDigit)

def readSign : List Char -> Bool × List Char
  | '-' :: rest => (true, rest)
  | '+' :: rest => (false, rest)
  | cs => (false, cs)

def readExponent : List Char -> Option Int
  | [] => some 0
  | c :: rest =>
      if c = 'e' ∨ c = 'E' then
        let (negative, rest) := readSign rest
        let (digits, rest) := spanDigits rest
        if digits.isEmpty ∨ !rest.isEmpty then none
        else
          let value : Int := digitsValue digits
          some (if negative then -value else value)
      else none

/-- Reads digits with an optional fraction and exponent; one digit before the exponent suffices. -/
def readUnsigned (negative : Bool) (cs : List Char) : Option Binary64 :=
  let (whole, rest) := spanDigits cs
  let (fraction, rest) :=
    match rest with
    | '.' :: rest => spanDigits rest
    | rest => ([], rest)
  if whole.isEmpty ∧ fraction.isEmpty then none
  else
    (readExponent rest).map fun e =>
      Literal.toBinary64 ⟨negative, digitsValue (whole ++ fraction), e - fraction.length⟩

def lowerAll (cs : List Char) : List Char := cs.map Char.toLower

def read (cs : List Char) : Option Binary64 :=
  let (negative, rest) := readSign cs
  let name := String.ofList (lowerAll rest)
  if name = "inf" ∨ name = "infinity" then some (.infinite negative)
  else if name = "nan" then some .nan
  else readUnsigned negative rest

end Decimal
end AnalysisHarness
