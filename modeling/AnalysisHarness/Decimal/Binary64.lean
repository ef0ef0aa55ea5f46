/-!
# Double-precision numbers

A number is kept in canonical form, so that equal numbers are equal values, apart from the two
zeros. Every operation is carried out exactly on natural numbers and rounded once, to the nearest
number and to the even neighbour in the middle.
-/

-- powers of numbers stay those of the core library where other algebraic structures are known
attribute [instance (100000), default_instance 100000] instPowNat

namespace AnalysisHarness

/--
Double-precision numbers. A finite one is `significand * 2 ^ exponent / 2 ^ 1074`, where the
significand is below `2 ^ 53`, and at least `2 ^ 52` unless the exponent is zero.
-/
inductive Binary64 where
  | nan
  | infinite (negative : Bool)
  | finite (negative : Bool) (significand exponent : Nat)
  deriving DecidableEq, Repr, Inhabited

namespace Binary64

def zero (negative : Bool) : Binary64 := finite negative 0 0

def maxExponent : Nat := 2045

/-- The quotient rounded to the nearest natural number, in the middle to the even one. -/
def roundHalfEven (num den : Nat) : Nat :=
  let q := num / den
  let r := num % den
  if 2 * r < den then q
  else if den < 2 * r then q + 1
  else q + q % 2

def unitExponent (num den : Nat) : Nat :=
  if num / den < 2 ^ 53 then 0 else Nat.log2 (num / den) - 52

/--
A number of so many units. A significand that has become too large is carried over; beyond the
largest finite number the number is infinite.
-/
def ofUnits (negative : Bool) (m e : Nat) : Binary64 :=
  if m = 2 ^ 53 then
    if maxExponent < e + 1 then infinite negative else finite negative (2 ^ 52) (e + 1)
  else if maxExponent < e then infinite negative
  else finite negative m e

def ofRatio (negative : Bool) (num den : Nat) : Binary64 :=
  let scaled := num * 2 ^ 1074
  let e := unitExponent scaled den
  ofUnits negative (roundHalfEven scaled (den * 2 ^ e)) e

def ofNat (negative : Bool) (n : Nat) : Binary64 := ofRatio negative n 1

def ofInt (i : Int) : Binary64 := ofNat (decide (i < 0)) i.natAbs

def neg : Binary64 -> Binary64
  | nan => nan
  | infinite s => infinite !s
  | finite s m e => finite (!s) m e

def isZero : Binary64 -> Bool
  | finite _ 0 _ => true
  | _ => false

def isInfinite : Binary64 -> Bool
  | infinite _ => true
  | _ => false

def isNegative : Binary64 -> Bool
  | nan => false
  | infinite s => s
  | finite s _ _ => s

def mul : Binary64 -> Binary64 -> Binary64
  | nan, _ => nan
  | _, nan => nan
  | infinite s, b => if b.isZero then nan else infinite (s != b.isNegative)
  | a, infinite s => if a.isZero then nan else infinite (s != a.isNegative)
  | finite s m e, finite t n f => ofRatio (s != t) (m * n * 2 ^ (e + f)) (2 ^ 2148)

def div : Binary64 -> Binary64 -> Binary64
  | nan, _ => nan
  | _, nan => nan
  | infinite s, b => if b.isInfinite then nan else infinite (s != b.isNegative)
  | a, infinite s => zero (s != a.isNegative)
  | finite s m e, finite t n f =>
      if n = 0 then
        if m = 0 then nan else infinite (s != t)
      else ofRatio (s != t) (m * 2 ^ e) (n * 2 ^ f)

/-- Numeric equality: the two zeros are equal, and no number equals "not a number". -/
def eq (a b : Binary64) : Bool :=
  match a, b with
  | nan, _ => false
  | _, nan => false
  | finite s m e, finite t n f =>
      (m == 0 && n == 0) || (s == t && m == n && e == f)
  | a, b => a == b

/-- The bits of the interchange format; `none` for "not a number", which has many. -/
def toBits? : Binary64 -> Option Nat
  | nan => none
  | infinite s => some ((if s then 2 ^ 63 else 0) + 2047 * 2 ^ 52)
  | finite s m e => some ((if s then 2 ^ 63 else 0) + e * 2 ^ 52 + m)

end Binary64

end AnalysisHarness
