/-!
# Punycode

Names of hosts beyond ASCII are written in ASCII: first their ASCII characters, and then, from the
smallest of the others on, how far the place and the value of each lie behind those of the one
before it, in digits to base 36 whose weights adapt to the size of the numbers.
-/

namespace AnalysisHarness
namespace Url
namespace Punycode

def digit (n : Nat) : Char := if n < 26 then Char.ofNat (97 + n) else Char.ofNat (22 + n)

def threshold (place bias : Nat) : Nat :=
  if place ≤ bias + 1 then 1 else if bias + 26 ≤ place then 26 else place - bias

def digits (bias : Nat) : Nat -> Nat -> Nat -> List Char
  | 0, _, _ => []
  | fuel + 1, place, n =>
      let t := threshold place bias
      if n < t then [digit n]
      else digit (t + (n - t) % (36 - t)) :: digits bias fuel (place + 36) ((n - t) / (36 - t))

/-- How often a number can be divided by 35 before it is at most 455, and what is left of it. -/
def damp : Nat -> Nat -> Nat -> Nat × Nat
  | 0, steps, n => (steps, n)
  | fuel + 1, steps, n => if 455 < n then damp fuel (steps + 1) (n / 35) else (steps, n)

def adapt (n count : Nat) (first : Bool) : Nat :=
  let n := if first then n / 700 else n / 2
  let n := n + n / count
  let (steps, n) := damp n 0 n
  36 * steps + 36 * n / (n + 38)

structure Progress where
  written : List Char
  bias : Nat
  delta : Nat
  count : Nat

def pass (n basic : Nat) (p : Progress) (c : Char) : Progress :=
  if c.toNat < n then { p with delta := p.delta + 1 }
  else if c.toNat = n then
    ⟨p.written ++ digits p.bias (p.delta + 1) 36 p.delta,
      adapt p.delta (p.count + 1) (p.count == basic), 0, p.count + 1⟩
  else p

/-- Writes the characters of the given values, which increase; all below `reached` are written. -/
def writeValues (text : List Char) (basic : Nat) : List Nat -> Nat -> Progress -> Progress
  | [], _, p => p
  | n :: ns, reached, p =>
      let p := { p with delta := p.delta + (n - reached) * (p.count + 1) }
      let p := text.foldl (pass n basic) p
      writeValues text basic ns (n + 1) { p with delta := p.delta + 1 }

def encode (text : List Char) : List Char :=
  let basic := text.filter fun c => c.toNat < 128
  let others := (text.filter fun c => 128 ≤ c.toNat).map Char.toNat
  let values := (others.mergeSort fun a b => a ≤ b).eraseDups
  let p := writeValues text basic.length values 128 ⟨[], 72, 0, basic.length⟩
  if basic.isEmpty then p.written else basic ++ '-' :: p.written

end Punycode
end Url
end AnalysisHarness
