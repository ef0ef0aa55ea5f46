/-!
# Patterns of the line editor

Patterns in two notations: in the basic one, groups, alternatives and most repetitions are written
with a backslash, in the extended one without. Of all matches at the first possible place the
longest counts.
-/

namespace AnalysisHarness
namespace Shell

inductive EditPattern where
  | empty
  | char (c : Char)
  | any
  | oneOf (negated : Bool) (members : List (Char × Char))
  | lineStart
  | lineEnd
  | again (group : Nat)
  | group (number : Nat) (p : EditPattern)
  | both (p q : EditPattern)
  | either (p q : EditPattern)
  | times (p : EditPattern) (low : Nat) (high : Option Nat)
  deriving Repr

namespace EditPattern

/-- A place in a line during a match, and what the groups have matched. -/
structure Place where
  position : Nat
  rest : List Char
  groups : List (Nat × List Char)

/-- The places after taking a step again and again, as often as a count allows. -/
def repeatStep (step : Place -> List Place) : Nat -> Place -> List Place
  | 0, here => [here]
  | count + 1, here =>
      let further := (step here).filter fun next => next.rest.length < here.rest.length
      further.flatMap (repeatStep step count) ++ [here]

def repeatExactly (step : Place -> List Place) : Nat -> Place -> List Place
  | 0, here => [here]
  | count + 1, here => (step here).flatMap (repeatExactly step count)

def afterChar (accepts : Char -> Bool) (here : Place) : List Place :=
  match here.rest with
  | c :: rest =>
      if accepts c then [{ here with position := here.position + 1, rest := rest }] else []
  | [] => []

def afterText (text : List Char) (here : Place) : List Place :=
  if text.isPrefixOf here.rest then
    [{ here with
      position := here.position + text.length
      rest := here.rest.drop text.length }]
  else []

def ends (same : Char -> Char -> Bool) : EditPattern -> Place -> List Place
  | empty, here => [here]
  | char c, here => afterChar (same c) here
  | any, here => afterChar (fun _ => true) here
  | oneOf negated members, here =>
      afterChar (fun c => (members.any fun m => m.1 ≤ c && c ≤ m.2) != negated) here
  | lineStart, here => if here.position = 0 then [here] else []
  | lineEnd, here => if here.rest.isEmpty then [here] else []
  | again n, here => afterText (((here.groups.find? (·.1 == n)).map Prod.snd).getD []) here
  | group n p, here =>
      (p.ends same here).map fun next =>
        let matched := here.rest.take (next.position - here.position)
        { next with groups := (n, matched) :: next.groups }
  | both p q, here => (p.ends same here).flatMap (q.ends same)
  | either p q, here => p.ends same here ++ q.ends same here
  | times p low high, here =>
      let most := match high with
        | some n => n - low
        | none => here.rest.length
      (repeatExactly (p.ends same) low here).flatMap (repeatStep (p.ends same) most)

def longestFrom (same : Char -> Char -> Bool) (p : EditPattern) (position : Nat)
    (rest : List Char) : Option Place :=
  (p.ends same ⟨position, rest, []⟩).foldl
    (fun best next =>
      match best with
      | none => some next
      | some b => if b.position < next.position then some next else some b)
    none

inductive Mark where
  | char (c : Char)
  | any
  | oneOf (negated : Bool) (members : List (Char × Char))
  | caret
  | dollar
  | again (group : Nat)
  | opening
  | closing
  | bar
  | times (low : Nat) (high : Option Nat)
  deriving Repr

def readMembers : List Char -> List (Char × Char)
  | a :: '-' :: b :: rest => (a, b) :: readMembers rest
  | a :: rest => (a, a) :: readMembers rest
  | [] => []

/-- Reads what stands in brackets; a closing bracket at its beginning belongs to it. -/
def readBrackets (cs : List Char) : Mark × List Char :=
  let (negated, cs) :=
    match cs with
    | '^' :: rest => (true, rest)
    | _ => (false, cs)
  let first := cs.take 1
  let inside := first ++ (cs.drop 1).takeWhile (· != ']')
  (.oneOf negated (readMembers inside), cs.drop (inside.length + 1))

def readTimes (cs : List Char) : Mark × List Char :=
  let value (digits : List Char) : Nat := digits.foldl (fun n c => n * 10 + (c.toNat - 48)) 0
  let inside := cs.takeWhile fun c => c.isDigit || c == ','
  let rest := (cs.drop inside.length).dropWhile fun c => c == '\\' || c == '\x7d'
  let low := inside.takeWhile (· != ',')
  match inside.drop low.length with
  | [] => (.times (value low) (some (value low)), rest)
  | [_] => (.times (value low) none, rest)
  | _ :: high => (.times (value low) (some (value high)), rest)

/-- The marks of a pattern in one of the two notations. -/
def marks (extended : Bool) : Nat -> List Char -> List Mark
  | 0, _ => []
  | fuel + 1, cs =>
      let special (c : Char) (rest : List Char) : Option (Mark × List Char) :=
        match c with
        | '(' => some (.opening, rest)
        | ')' => some (.closing, rest)
        | '|' => some (.bar, rest)
        | '+' => some (.times 1 none, rest)
        | '?' => some (.times 0 (some 1), rest)
        | '\x7b' => some (readTimes rest)
        | _ => none
      let (mark, rest) : Mark × List Char :=
        match cs with
        | '\\' :: c :: rest =>
            if c.isDigit && c != '0' then (.again (c.toNat - 48), rest)
            else if c = 'n' then (.char '\n', rest)
            else if c = 't' then (.char '\t', rest)
            else if extended then (.char c, rest)
            else (special c rest).getD (.char c, rest)
        | '.' :: rest => (.any, rest)
        | '*' :: rest => (.times 0 none, rest)
        | '^' :: rest => (.caret, rest)
        | '$' :: rest => (.dollar, rest)
        | '[' :: rest => readBrackets rest
        | c :: rest => if extended then (special c rest).getD (.char c, rest) else (.char c, rest)
        | [] => (.char ' ', [])
      if cs.isEmpty then [] else mark :: marks extended fuel rest

structure Reading where
  pattern : EditPattern
  rest : List Mark
  groups : Nat

def applyTimes (p : EditPattern) : List Mark -> EditPattern × List Mark
  | .times low high :: rest => applyTimes (.times p low high) rest
  | rest => (p, rest)

def endsHere : List Mark -> Bool
  | [] => true
  | .closing :: _ => true
  | .bar :: _ => true
  | _ => false

mutual

def readAlternatives (extended : Bool) : Nat -> Nat -> List Mark -> Reading
  | 0, groups, ms => ⟨.empty, ms, groups⟩
  | fuel + 1, groups, ms =>
      let first := readSequence extended fuel true groups ms
      match first.rest with
      | .bar :: rest =>
          let second := readAlternatives extended fuel first.groups rest
          { second with pattern := .either first.pattern second.pattern }
      | _ => first

/-- Reads marks one after the other; some of them mean themselves at the beginning. -/
def readSequence (extended : Bool) : Nat -> Bool -> Nat -> List Mark -> Reading
  | 0, _, groups, ms => ⟨.empty, ms, groups⟩
  | fuel + 1, isFirst, groups, ms =>
      let goOn (p : EditPattern) (rest : List Mark) (groups : Nat) : Reading :=
        let (p, rest) := applyTimes p rest
        let next := readSequence extended fuel false groups rest
        { next with pattern := .both p next.pattern }
      match ms with
      | [] => ⟨.empty, [], groups⟩
      | .closing :: _ => ⟨.empty, ms, groups⟩
      | .bar :: _ => ⟨.empty, ms, groups⟩
      | .opening :: rest =>
          let inner := readAlternatives extended fuel (groups + 1) rest
          goOn (.group (groups + 1) inner.pattern) (inner.rest.drop 1) inner.groups
      | .caret :: rest =>
          if extended || isFirst then
            let next := readSequence extended fuel true groups rest
            { next with pattern := .both .lineStart next.pattern }
          else goOn (.char '^') rest groups
      | .dollar :: rest =>
          if extended || endsHere rest then goOn .lineEnd rest groups
          else goOn (.char '$') rest groups
      | .times _ _ :: rest => goOn (.char '*') rest groups
      | .char c :: rest => goOn (.char c) rest groups
      | .any :: rest => goOn .any rest groups
      | .oneOf negated members :: rest => goOn (.oneOf negated members) rest groups
      | .again n :: rest => goOn (.again n) rest groups

end

def read (extended : Bool) (cs : List Char) : EditPattern :=
  let ms := marks extended (cs.length + 1) cs
  (readAlternatives extended (4 * ms.length + 4) 0 ms).pattern

end EditPattern

end Shell
end AnalysisHarness
