import AnalysisHarness.Unicode.Property

/-!
# Pattern expressions

What a pattern means once its text has been read: single characters, assertions about a position,
and sequences, alternatives and repetitions of these. Which of several matches is preferred is
of no interest here, so greedy and lazy repetitions are the same.
-/

namespace AnalysisHarness
namespace Pattern

open Unicode

/-- Statements about a position, decided by the characters on both sides of it. -/
inductive Assertion where
  | textStart
  | textEnd
  | lineStart
  | lineEnd
  /-- A line start where carriage returns, alone or before a line feed, end lines too. -/
  | lineStartCrlf
  | lineEndCrlf
  | wordBoundary (word : CharClass)
  | notWordBoundary (word : CharClass)
  | wordStart (word : CharClass)
  | wordEnd (word : CharClass)
  | wordStartHalf (word : CharClass)
  | wordEndHalf (word : CharClass)
  deriving DecidableEq, Repr

def isIn (cls : CharClass) : Option Char -> Bool
  | none => false
  | some c => cls.has c.toNat

def Assertion.holds (before after : Option Char) : Assertion -> Bool
  | textStart => before.isNone
  | textEnd => after.isNone
  | lineStart => before.isNone || before == some '\n'
  | lineEnd => after.isNone || after == some '\n'
  | lineStartCrlf =>
      before.isNone || before == some '\n' || (before == some '\r' && after != some '\n')
  | lineEndCrlf =>
      after.isNone || after == some '\r' || (after == some '\n' && before != some '\r')
  | wordBoundary w => isIn w before != isIn w after
  | notWordBoundary w => isIn w before == isIn w after
  | wordStart w => !isIn w before && isIn w after
  | wordEnd w => isIn w before && !isIn w after
  | wordStartHalf w => !isIn w before
  | wordEndHalf w => !isIn w after

inductive Node where
  | empty
  | one (cls : CharClass)
  | look (assertion : Assertion)
  | seq (first second : Node)
  | alt (left right : Node)
  /-- At least `min` and, if given, at most `max` copies. -/
  | rep (body : Node) (min : Nat) (max : Option Nat)
  deriving DecidableEq, Repr

namespace Node

def seqAll : List Node -> Node
  | [] => empty
  | [last] => last
  | first :: others => seq first (seqAll others)

def altAll : List Node -> Node
  | [] => empty
  | [last] => last
  | first :: others => alt first (altAll others)

def char (c : Char) : Node := one (.single c.toNat)

/--
An estimate of the memory, in bytes, that an automaton for the expression takes when every copy of a
repeated part is built. A character takes a state for each byte of its encoding.
-/
def weight : Node -> Nat
  | empty | look _ => 32
  | one (.table [(_, last)]) => 32 * (Char.ofNat last).utf8Size
  | one cls => 32 + 40 * (cls.rangeCount - 1)
  | seq a b => a.weight + b.weight
  | alt a b => a.weight + b.weight + 32
  | rep a min none => a.weight * Nat.max min 1 + 32
  | rep a _ (some max) => a.weight * max + 32

end Node

end Pattern
end AnalysisHarness
