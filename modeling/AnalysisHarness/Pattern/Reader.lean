import AnalysisHarness.Pattern.Bracket

/-!
# Reading patterns

A pattern is read one expression at a time into a stack of open groups. Each open group holds the
flags in force in it, its finished alternatives and the sequence being read. Closing a group makes
it one part of the group around it, whose flags are in force again.
-/

namespace AnalysisHarness
namespace Pattern

open Unicode

structure Part where
  node : Node
  depth : Nat
  /-- A setting of flags cannot be repeated. -/
  repeatable : Bool

structure OpenGroup where
  flags : Flags
  /-- The finished alternatives, last one first. -/
  alternatives : List Part
  parts : List Part

def OpenGroup.start (flags : Flags) : OpenGroup := ⟨flags, [], []⟩

def Part.join (build : List Node -> Node) : List Part -> Part
  | [] => ⟨.empty, 0, true⟩
  | [only] => only
  | parts =>
      ⟨build (parts.reverse.map Part.node), 1 + (parts.map Part.depth).foldl Nat.max 0, true⟩

def OpenGroup.finished (g : OpenGroup) : List Part :=
  Part.join Node.seqAll g.parts :: g.alternatives

def OpenGroup.close (g : OpenGroup) : Part :=
  Part.join Node.altAll g.finished

structure ReaderState where
  group : OpenGroup
  outer : List OpenGroup
  /-- The names that groups have been given. -/
  names : List (List Char)

namespace ReaderState

def start : ReaderState := ⟨.start {}, [], []⟩

def push (s : ReaderState) (part : Part) : ReaderState :=
  { s with group := { s.group with parts := part :: s.group.parts } }

def pushClass (s : ReaderState) (cls : CharClass) : ReaderState :=
  s.push ⟨.one cls, 0, true⟩

def pushLook (s : ReaderState) (a : Assertion) : ReaderState :=
  s.push ⟨.look a, 0, true⟩

def literalClass (flags : Flags) (c : Char) : CharClass :=
  if flags.ignoreCase then
    if flags.unicode then .ofList (caseOrbit c.toNat)
    else .foldedAscii (.single c.toNat)
  else .single c.toNat

def pushLiteral (s : ReaderState) (c : Char) : ReaderState :=
  s.pushClass (literalClass s.group.flags c)

def openGroup (s : ReaderState) (flags : Flags) : ReaderState :=
  { s with group := .start flags, outer := s.group :: s.outer }

def closeGroup (s : ReaderState) : Except Fault ReaderState :=
  match s.outer with
  | [] => .error .unopenedGroup
  | g :: outer =>
      let part := s.group.close
      .ok ({ s with group := g, outer := outer }.push ⟨part.node, 1 + part.depth, true⟩)

def nextAlternative (s : ReaderState) : ReaderState :=
  { s with group := { s.group with alternatives := s.group.finished, parts := [] } }

def repeatLast (s : ReaderState) (min : Nat) (max : Option Nat) :
    Except Fault ReaderState :=
  match s.group.parts with
  | [] => .error .nothingToRepeat
  | last :: parts =>
      if last.repeatable then
        .ok { s with group :=
          { s.group with parts := ⟨.rep last.node min max, 1 + last.depth, true⟩ :: parts } }
      else .error .nothingToRepeat

end ReaderState

def dotClass (flags : Flags) : Except Fault CharClass :=
  if !flags.unicode then .error .notAscii
  else if flags.dotAll then .ok (.compl .none)
  else if flags.crlf then .ok (.compl (.ofList [10, 13]))
  else .ok (.compl (.single 10))

def startAssertion (flags : Flags) : Assertion :=
  if !flags.multiLine then .textStart
  else if flags.crlf then .lineStartCrlf
  else .lineStart

def endAssertion (flags : Flags) : Assertion :=
  if !flags.multiLine then .textEnd
  else if flags.crlf then .lineEndCrlf
  else .lineEnd

def isNameCharacter (first : Bool) (c : Char) : Bool :=
  if first then c == '_' || alphabetic.has c.toNat
  else c == '_' || c == '.' || c == '[' || c == ']' || alphanumeric.has c.toNat

def readGroupName : List Char -> List Char -> Except Fault (List Char × List Char)
  | _, [] => .error .badGroupName
  | name, c :: rest =>
      if c = '>' then
        if name.isEmpty then .error .badGroupName else .ok (name.reverse, rest)
      else if isNameCharacter name.isEmpty c then readGroupName (c :: name) rest
      else .error .badGroupName

def readGroupStart (s : ReaderState) (cs : List Char) :
    Except Fault (ReaderState × List Char) :=
  let flags := s.group.flags
  let named (rest : List Char) : Except Fault (ReaderState × List Char) := do
    let (name, rest) ← readGroupName [] rest
    if s.names.contains name then .error .badGroupName
    else pure ({ s with names := name :: s.names }.openGroup flags, rest)
  match flags.skip cs with
  | '?' :: '=' :: _ => .error .lookAround
  | '?' :: '!' :: _ => .error .lookAround
  | '?' :: '<' :: '=' :: _ => .error .lookAround
  | '?' :: '<' :: '!' :: _ => .error .lookAround
  | '?' :: 'P' :: '<' :: rest => named rest
  | '?' :: '<' :: rest => named rest
  | '?' :: rest => do
      let setting ← FlagSetting.read flags [] rest
      if setting.opensGroup then pure (s.openGroup setting.flags, setting.rest)
      else if setting.isEmpty then .error .badFlags
      else
        let s := { s with group := { s.group with flags := setting.flags } }
        pure (s.push ⟨.empty, 0, false⟩, setting.rest)
  | cs => .ok (s.openGroup flags, cs)

def readDigits (flags : Flags) : Nat -> List Char -> List Char -> List Char × List Char
  | 0, digits, cs => (digits.reverse, cs)
  | fuel + 1, digits, cs =>
      match cs with
      | [] => (digits.reverse, [])
      | c :: rest =>
          if c.isDigit then readDigits flags fuel (c :: digits) (flags.skip rest)
          else (digits.reverse, c :: rest)

/-- A number in decimal digits below 2^32, or nothing, with blanks allowed on both sides. -/
def readCount (flags : Flags) (cs : List Char) :
    Except Fault (Option Nat × List Char) :=
  let cs := cs.dropWhile Text.isBlank
  let (digits, rest) := readDigits flags (cs.length + 1) [] cs
  let rest := flags.skip (rest.dropWhile Text.isBlank)
  let value := digits.foldl (fun value c => value * 10 + (c.toNat - 48)) 0
  if digits.isEmpty then .ok (none, rest)
  else if 2 ^ 32 ≤ value then .error .badRepetition
  else .ok (some value, rest)

/-- What follows a question mark, which makes a repetition lazy. -/
def dropLazy : List Char -> List Char
  | '?' :: rest => rest
  | cs => cs

def readBounds (flags : Flags) (cs : List Char) :
    Except Fault (Nat × Option Nat × List Char) := do
  let (min, rest) ← readCount flags (flags.skip cs)
  match rest with
  | ',' :: rest =>
      match flags.skip rest with
      | '}' :: rest =>
          match min with
          | none => .error .badRepetition
          | some min => pure (min, none, dropLazy (flags.skip rest))
      | rest => do
          let (max, rest) ← readCount flags rest
          match min, max, rest with
          | some min, some max, '}' :: rest =>
              if max < min then .error .badRepetition
              else pure (min, some max, dropLazy (flags.skip rest))
          | _, _, _ => .error .badRepetition
  | '}' :: rest =>
      match min with
      | none => .error .badRepetition
      | some n => pure (n, some n, dropLazy (flags.skip rest))
  | _ => .error .badRepetition

def readExpression (s : ReaderState) (c : Char) (rest : List Char) :
    Except Fault (ReaderState × List Char) :=
  let flags := s.group.flags
  let withRest (rest : List Char) (s : Except Fault ReaderState) :
      Except Fault (ReaderState × List Char) :=
    s.map fun s => (s, rest)
  match c with
  | '(' => readGroupStart s rest
  | ')' => withRest rest s.closeGroup
  | '|' => .ok (s.nextAlternative, rest)
  | '[' => do
      let (part, rest) ← readBracket flags rest
      pure (s.push ⟨.one part.cls, part.depth, true⟩, rest)
  | '?' => withRest (dropLazy rest) (s.repeatLast 0 (some 1))
  | '*' => withRest (dropLazy rest) (s.repeatLast 0 none)
  | '+' => withRest (dropLazy rest) (s.repeatLast 1 none)
  | '{' => do
      let (min, max, rest) ← readBounds flags rest
      withRest rest (s.repeatLast min max)
  | '.' => do
      let cls ← dotClass flags
      pure (s.pushClass cls, rest)
  | '^' => .ok (s.pushLook (startAssertion flags), rest)
  | '$' => .ok (s.pushLook (endAssertion flags), rest)
  | '\\' => do
      let (escape, rest) ← Escape.read flags rest
      match escape with
      | .literal c => pure (s.pushLiteral c, rest)
      | .members cls => pure (s.pushClass cls, rest)
      | .look a => pure (s.pushLook a, rest)
  | c => .ok (s.pushLiteral c, rest)

def readAll : Nat -> ReaderState -> List Char -> Except Fault ReaderState
  | 0, _, _ => .error .unexpectedEnd
  | fuel + 1, s, cs =>
      match s.group.flags.skip cs with
      | [] => .ok s
      | c :: rest => do
          let (s, rest) ← readExpression s c rest
          readAll fuel s rest

def depthLimit : Nat := 250

/-- How much memory, in bytes, the automaton of a pattern may take. -/
def weightLimit : Nat := 10 * 2 ^ 20

def Node.read (text : List Char) : Except Fault Node := do
  let s ← readAll (text.length + 1) .start text
  if !s.outer.isEmpty then .error .unclosedGroup
  else
    let part := s.group.close
    if depthLimit < part.depth then .error .tooDeep
    else if weightLimit < part.node.weight then .error .tooLarge
    else pure part.node

end Pattern
end AnalysisHarness
