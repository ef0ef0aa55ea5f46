import AnalysisHarness.Unicode.CaseOrbit

/-!
# Classes of characters

A class is an expression over tables of code points. It is never expanded: membership is decided
by walking the expression, so that negation and case folding cost nothing to form.
-/

namespace AnalysisHarness
namespace Unicode

inductive CharClass where
  | table (ranges : CodeTable)
  | union (left right : CharClass)
  | inter (left right : CharClass)
  | diff (left right : CharClass)
  | symmDiff (left right : CharClass)
  | compl (inner : CharClass)
  /-- Everything that simple case folding identifies with a member. -/
  | folded (inner : CharClass)
  /-- The members, and the other case of every ASCII letter among them. -/
  | foldedAscii (inner : CharClass)
  deriving DecidableEq, Repr

namespace CharClass

def otherCase (n : Nat) : Nat :=
  if 65 ≤ n ∧ n ≤ 90 then n + 32
  else if 97 ≤ n ∧ n ≤ 122 then n - 32
  else n

def has : CharClass -> Nat -> Bool
  | table ranges, n => ranges.has n
  | union a b, n => a.has n || b.has n
  | inter a b, n => a.has n && b.has n
  | diff a b, n => a.has n && !b.has n
  | symmDiff a b, n => a.has n != b.has n
  | compl a, n => !a.has n
  | folded a, n => (caseOrbit n).any fun m => a.has m
  | foldedAscii a, n => a.has n || a.has (otherCase n)

def single (n : Nat) : CharClass := table [(n, n)]

def none : CharClass := table []

def ofList (ns : List Nat) : CharClass := table (ns.map fun n => (n, n))

def unionAll (classes : List CharClass) : CharClass :=
  classes.foldr union none

def rangeCount : CharClass -> Nat
  | table ranges => ranges.length
  | union a b | inter a b | diff a b | symmDiff a b => a.rangeCount + b.rangeCount
  | compl a | folded a | foldedAscii a => a.rangeCount

def isAsciiAmongBytes (a : CharClass) : Bool :=
  (List.range 128).all fun n => !a.has (128 + n)

@[simp] theorem has_single (n m : Nat) : (single n).has m = decide (m = n) := by
  simp only [single, has, CodeTable.has]
  by_cases h : m = n
  · simp [h]
  · by_cases h' : m < n
    · simp [h, h']
    · simp [h, h']
      omega

@[simp] theorem has_compl (a : CharClass) (n : Nat) : (compl a).has n = !a.has n := rfl

@[simp] theorem has_union (a b : CharClass) (n : Nat) :
    (union a b).has n = (a.has n || b.has n) := rfl

end CharClass

end Unicode
end AnalysisHarness
