import AnalysisHarness.Pattern.Node

/-!
# Matching

A text is read once from left to right. The state is the list of expressions that may still be
matched from here; a character replaces each by what may follow it after that character. A match
is found as soon as one of them can match the empty text at the present position.
-/

namespace AnalysisHarness
namespace Pattern

namespace Node

/-- Whether the expression matches the empty text between two characters. -/
def nullable (before after : Option Char) : Node -> Bool
  | empty => true
  | one _ => false
  | look a => a.holds before after
  | seq a b => a.nullable before after && b.nullable before after
  | alt a b => a.nullable before after || b.nullable before after
  | rep a min _ => min == 0 || a.nullable before after

def andThen : Node -> Node -> Node
  | empty, b => b
  | a, b => seq a b

/--
What may follow once the character `c`, after the character `before`, has been matched. Copies of
a repetition that match the empty text may come first, so where the body can do that, no further
copy is required.
-/
def after (before : Option Char) (c : Char) : Node -> List Node
  | empty => []
  | look _ => []
  | one cls => if cls.has c.toNat then [empty] else []
  | alt a b => a.after before c ++ b.after before c
  | seq a b =>
      (a.after before c).map (fun n => n.andThen b) ++
        (if a.nullable before (some c) then b.after before c else [])
  | rep a min max =>
      if max = some 0 then []
      else
        let needed := if a.nullable before (some c) then 0 else min - 1
        (a.after before c).map fun n => n.andThen (rep a needed (max.map (· - 1)))

end Node

def insertNew (n : Node) (states : List Node) : List Node :=
  if states.contains n then states else n :: states

def step (before : Option Char) (c : Char) (states : List Node) : List Node :=
  (states.flatMap (Node.after before c)).foldl (fun found n => insertNew n found) []

/-- Whether a match of `start` begins in `text` or one of `states` is matched at its beginning. -/
def search (start : Node) (before : Option Char) (states : List Node) : List Char -> Bool
  | [] => (insertNew start states).any (Node.nullable before none)
  | c :: text =>
      let here := insertNew start states
      here.any (Node.nullable before (some c)) ||
        search start (some c) (step before c here) text

/-- Whether the expression matches somewhere in the text. -/
def Node.occursIn (start : Node) (text : List Char) : Bool :=
  search start none [] text

end Pattern
end AnalysisHarness
