import AnalysisHarness.Decimal.Literal

/-!
# Shortest decimal digits

Of all decimal numbers that round to a given double-precision number, the one with the fewest
digits is wanted, and of several such the nearest. On each grid of decimal numbers with a fixed
number of digits only the two neighbours of the number need to be tried.
-/

namespace AnalysisHarness
namespace Decimal

/-- Decimal digits with the power of ten of the last of them. -/
structure Digits where
  digits : Nat
  exponent : Int
  deriving DecidableEq, Repr

def ratio (m e : Nat) : Nat × Nat := (m * 2 ^ e, 2 ^ 1074)

/-- The power of ten of the leading digit of a positive quotient, at least one part in 10^340. -/
def leadingExponent (num den : Nat) : Int :=
  (Literal.size (num * 10 ^ 340 / den) : Int) - 341

def scaleDown (num den : Nat) (k : Int) : Nat × Nat :=
  if 0 ≤ k then (num, den * 10 ^ k.toNat) else (num * 10 ^ (-k).toNat, den)

def readsBack (m e d : Nat) (k : Int) : Bool :=
  Literal.toBinary64 ⟨false, d, k⟩ == .finite false m e

/-- The better of the two neighbours on a grid, if any of them rounds to the number. -/
def neighbour (m e : Nat) (k : Int) : Option Digits :=
  let (num, den) := ratio m e
  let (num, den) := scaleDown num den k
  let below := num / den
  let lowHits := readsBack m e below k
  let highHits := readsBack m e (below + 1) k
  let lowNearer := 2 * (num % den) < den || (2 * (num % den) == den && below % 2 == 0)
  if lowHits && (lowNearer || !highHits) then some ⟨below, k⟩
  else if highHits then some ⟨below + 1, k⟩
  else none

/-- The first grid, from `k` down, on which a neighbour rounds to the number. -/
def firstGrid (m e : Nat) : Nat -> Int -> Option Digits
  | 0, _ => none
  | more + 1, k => (neighbour m e k) <|> firstGrid m e more (k - 1)

def dropZeros : Nat -> Digits -> Digits
  | 0, d => d
  | fuel + 1, d =>
      if d.digits % 10 = 0 then dropZeros fuel ⟨d.digits / 10, d.exponent + 1⟩ else d

/-- The shortest digits of a positive finite number; seventeen always suffice. -/
def shortest (m e : Nat) : Digits :=
  (firstGrid m e 17 (leadingExponent (ratio m e).1 (ratio m e).2)).elim ⟨m, 0⟩ (dropZeros 20)

end Decimal
end AnalysisHarness
