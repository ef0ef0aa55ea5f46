import AnalysisHarness.Decimal.Shortest

/-!
# Layout of numbers

How the shortest digits of a number are set: positionally, with a fraction of at least one digit,
or with one digit before the point and an exponent. A layout says for which numbers which is used.
-/

namespace AnalysisHarness
namespace Decimal

/-- Which numbers are written positionally: those whose leading digit has a power in a range. -/
structure Layout where
  lowest : Option Int
  highest : Option Int

def Layout.positional : Layout := ⟨none, none⟩

def Layout.compact : Layout := ⟨some (-5), some 15⟩

def Layout.isPositional (l : Layout) (leading : Int) : Bool :=
  l.lowest.all (· ≤ leading) && l.highest.all (leading ≤ ·)

def zeros (n : Nat) : List Char := List.replicate n '0'

/-- Digits with a point so far to the left of their end as the exponent says. -/
def setPositional (digits : List Char) (exponent : Int) : List Char :=
  if 0 ≤ exponent then digits ++ zeros exponent.toNat ++ ".0".toList
  else
    let places := (-exponent).toNat
    if places < digits.length then
      let whole := digits.length - places
      digits.take whole ++ '.' :: digits.drop whole
    else "0.".toList ++ zeros (places - digits.length) ++ digits

def setScientific (digits : List Char) (leading : Int) : List Char :=
  let fraction := digits.drop 1
  let mantissa := digits.take 1 ++ (if fraction.isEmpty then [] else '.' :: fraction)
  let sign := if leading < 0 then '-' else '+'
  mantissa ++ 'e' :: sign :: Nat.toDigits 10 leading.natAbs

def Layout.magnitude (l : Layout) (m e : Nat) : List Char :=
  if m = 0 then "0.0".toList
  else
    let d := shortest m e
    let digits := Nat.toDigits 10 d.digits
    let leading := d.exponent + digits.length - 1
    if l.isPositional leading then setPositional digits d.exponent
    else setScientific digits leading

def Layout.write (l : Layout) : Binary64 -> List Char
  | .nan => "nan".toList
  | .infinite negative => if negative then "-inf".toList else "inf".toList
  | .finite negative m e => (if negative then ['-'] else []) ++ l.magnitude m e

def briefMagnitude (m e : Nat) : List Char :=
  if m = 0 then ['0']
  else
    let d := shortest m e
    let digits := Nat.toDigits 10 d.digits
    if 0 ≤ d.exponent then digits ++ zeros d.exponent.toNat else setPositional digits d.exponent

/-- A number written positionally, with a point only where a fraction follows. -/
def writeBrief : Binary64 -> List Char
  | .nan => "NaN".toList
  | .infinite negative => if negative then "-inf".toList else "inf".toList
  | .finite negative m e => (if negative then ['-'] else []) ++ briefMagnitude m e

end Decimal
end AnalysisHarness
