import AnalysisHarness.Pattern.Escape

/-!
# Bracketed classes

A bracketed class is a union of characters, ranges, named classes and further brackets, possibly
complemented. Two unions can be combined by intersection, difference and symmetric difference,
which group from left to right and bind more weakly than the union does.
-/

namespace AnalysisHarness
namespace Pattern

open Unicode

/-- A part of a bracketed class, and how deeply brackets, unions and combinations nest in it. -/
structure ClassPart where
  cls : CharClass
  depth : Nat

inductive ClassOperator where
  | intersection
  | difference
  | symmetricDifference
  deriving DecidableEq, Repr

def ClassOperator.apply : ClassOperator -> CharClass -> CharClass -> CharClass
  | intersection, a, b => .inter a b
  | difference, a, b => .diff a b
  | symmetricDifference, a, b => .symmDiff a b

def ClassOperator.read : List Char -> Option (ClassOperator × List Char)
  | '&' :: '&' :: rest => some (intersection, rest)
  | '-' :: '-' :: rest => some (difference, rest)
  | '~' :: '~' :: rest => some (symmetricDifference, rest)
  | _ => none

def ClassPart.union : List ClassPart -> ClassPart
  | [] => ⟨.none, 0⟩
  | [only] => only
  | parts =>
      ⟨.unionAll (parts.reverse.map ClassPart.cls),
        1 + (parts.map ClassPart.depth).foldl Nat.max 0⟩

def asciiClass? (name : List Char) : Option CharClass :=
  let named : List (String × CodeTable) := [
    ("alnum", [(48, 57), (65, 90), (97, 122)]),
    ("alpha", [(65, 90), (97, 122)]),
    ("ascii", [(0, 127)]),
    ("blank", [(9, 9), (32, 32)]),
    ("cntrl", [(0, 31), (127, 127)]),
    ("digit", [(48, 57)]),
    ("graph", [(33, 126)]),
    ("lower", [(97, 122)]),
    ("print", [(32, 126)]),
    ("punct", [(33, 47), (58, 64), (91, 96), (123, 126)]),
    ("space", [(9, 13), (32, 32)]),
    ("upper", [(65, 90)]),
    ("word", [(48, 57), (65, 90), (95, 95), (97, 122)]),
    ("xdigit", [(48, 57), (65, 70), (97, 102)])]
  (named.find? fun entry => entry.1.toList = name).map fun entry => .table entry.2

/--
Reads a named ASCII class after its opening bracket, if one stands there; blanks count in it. The
answer is the class, whether it is complemented, and the rest.
-/
def readNamedClass? (cs : List Char) : Option (CharClass × Bool × List Char) :=
  match cs with
  | ':' :: inner =>
      let (negated, body) :=
        match inner with
        | '^' :: body => (true, body)
        | _ => (false, inner)
      let name := body.takeWhile (· != ':')
      match body.dropWhile (· != ':') with
      | ':' :: ']' :: rest => (asciiClass? name).map fun cls => (cls, negated, rest)
      | _ => none
  | _ => none

/-- The next character but one, when blanks and the start of a comment do not count. -/
def peekBeyond (flags : Flags) (rest : List Char) : Option Char :=
  if flags.extended then
    match rest.dropWhile Text.isBlank with
    | [] => rest.head?
    | '#' :: comment =>
        match comment.dropWhile Text.isBlank with
        | [] => rest.head?
        | c :: _ => some c
    | c :: _ => some c
  else rest.head?

def readClassItem (flags : Flags) : List Char -> Except Fault (Escape × List Char)
  | [] => .error .badBracket
  | '\\' :: rest => Escape.read flags rest
  | c :: rest => .ok (.literal c, rest)

def rangeClass (flags : Flags) (low high : Char) : Except Fault CharClass :=
  if !flags.unicode && (127 < low.toNat || 127 < high.toNat) then .error .notAscii
  else .ok (.table [(low.toNat, high.toNat)])

def readClassRange (flags : Flags) (cs : List Char) :
    Except Fault (CharClass × List Char) := do
  let (first, rest) ← readClassItem flags cs
  match flags.skip rest with
  | [] => .error .badBracket
  | c :: inner =>
      let beyond := peekBeyond flags inner
      if c ≠ '-' ∨ beyond = some ']' ∨ beyond = some '-' then
        match first with
        | .literal low => do
            let cls ← rangeClass flags low low
            pure (cls, c :: inner)
        | .members cls => pure (cls, c :: inner)
        | .look _ => .error .badBracket
      else
        match flags.skip inner with
        | [] => .error .badBracket
        | inner => do
            let (last, rest) ← readClassItem flags inner
            match first, last with
            | .literal low, .literal high =>
                if high < low then .error .badRange
                else do
                  let cls ← rangeClass flags low high
                  pure (cls, rest)
            | _, _ => .error .badRange

structure BracketStart where
  negated : Bool
  parts : List ClassPart
  rest : List Char

def readHyphens (flags : Flags) : Nat -> List ClassPart -> List Char ->
    List ClassPart × List Char
  | 0, parts, cs => (parts, cs)
  | fuel + 1, parts, cs =>
      match cs with
      | '-' :: rest => readHyphens flags fuel (⟨.single 45, 0⟩ :: parts) (flags.skip rest)
      | _ => (parts, cs)

/--
Reads the beginning of a class after its opening bracket. A closing bracket that comes first
stands for itself.
-/
def BracketStart.read (flags : Flags) (cs : List Char) : Except Fault BracketStart :=
  let (negated, cs) :=
    match flags.skip cs with
    | '^' :: rest => (true, flags.skip rest)
    | cs => (false, cs)
  let (parts, cs) := readHyphens flags (cs.length + 1) [] cs
  match cs with
  | [] => .error .badBracket
  | ']' :: rest =>
      if parts.isEmpty then
        match flags.skip rest with
        | [] => .error .badBracket
        | cs => .ok ⟨negated, [⟨.single 93, 0⟩], cs⟩
      else .ok ⟨negated, parts, cs⟩
  | _ => .ok ⟨negated, parts, cs⟩

/-- The part of a class left of an operator that is still open, if there is one. -/
abbrev LeftOperand := Option (ClassOperator × ClassPart)

def LeftOperand.combine (flags : Flags) (left : LeftOperand) (right : ClassPart) : ClassPart :=
  match left with
  | none => right
  | some (op, left) =>
      let folded (cls : CharClass) : CharClass :=
        if flags.ignoreCase then
          if flags.unicode then .folded cls else .foldedAscii cls
        else cls
      ⟨op.apply (folded left.cls) (folded right.cls), 1 + Nat.max left.depth right.depth⟩

/--
Reads the rest of a class up to and with its closing bracket. `left` is what stands left of the
last operator, `parts` the union being read, last part first.
-/
def readClassBody (flags : Flags) : Nat -> LeftOperand -> List ClassPart -> List Char ->
    Except Fault (ClassPart × List Char)
  | 0, _, _, _ => .error .badBracket
  | fuel + 1, left, parts, cs =>
      match flags.skip cs with
      | [] => .error .badBracket
      | '[' :: rest =>
          match readNamedClass? rest with
          | some (cls, negated, rest) => do
              let cls ← finishClass flags negated cls
              readClassBody flags fuel left (⟨cls, 0⟩ :: parts) rest
          | none => do
              let start ← BracketStart.read flags rest
              let (inner, rest) ← readClassBody flags fuel none start.parts start.rest
              let cls ← finishClass flags start.negated inner.cls
              readClassBody flags fuel left (⟨cls, 1 + inner.depth⟩ :: parts) rest
      | ']' :: rest => .ok (left.combine flags (ClassPart.union parts), rest)
      | c :: rest =>
          match ClassOperator.read (c :: rest) with
          | some (op, rest) =>
              let combined := left.combine flags (ClassPart.union parts)
              readClassBody flags fuel (some (op, combined)) [] rest
          | none => do
              let (cls, rest) ← readClassRange flags (c :: rest)
              readClassBody flags fuel left (⟨cls, 0⟩ :: parts) rest

def readBracket (flags : Flags) (cs : List Char) :
    Except Fault (ClassPart × List Char) := do
  let start ← BracketStart.read flags cs
  let (inner, rest) ← readClassBody flags (cs.length + 1) none start.parts start.rest
  let cls ← finishClass flags start.negated inner.cls
  pure (⟨cls, 1 + inner.depth⟩, rest)

end Pattern
end AnalysisHarness
