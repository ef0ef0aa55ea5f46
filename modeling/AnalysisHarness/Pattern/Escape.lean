import AnalysisHarness.Pattern.Flags
import AnalysisHarness.Text.Search

/-!
# Escape sequences

What a backslash and the characters after it stand for: a character, a class of characters or an
assertion about the position.
-/

namespace AnalysisHarness
namespace Pattern

open Unicode

inductive Escape where
  | literal (c : Char)
  | members (cls : CharClass)
  | look (assertion : Assertion)

def charOfCode? (n : Nat) : Option Char :=
  if h : n.isValidChar then some (Char.ofNatAux n h) else none

/--
Reads exactly `count` hexadecimal digits, with blanks that do not count between them and after
them.
-/
def readFixedHex (flags : Flags) : Nat -> List Char -> List Char ->
    Except Fault (List Char × List Char)
  | 0, digits, cs => .ok (digits.reverse, cs)
  | count + 1, digits, cs =>
      match cs with
      | [] => .error .unexpectedEnd
      | c :: rest =>
          if isHexDigit c then readFixedHex flags count (c :: digits) (flags.skip rest)
          else .error .badEscape

def readBracedHex (flags : Flags) : Nat -> List Char -> List Char ->
    Except Fault (List Char × List Char)
  | 0, _, _ => .error .unexpectedEnd
  | fuel + 1, digits, cs =>
      match flags.skip cs with
      | [] => .error .unexpectedEnd
      | '}' :: rest =>
          if digits.isEmpty then .error .badEscape
          else .ok (digits.reverse, flags.skip rest)
      | c :: rest =>
          if isHexDigit c then readBracedHex flags fuel (c :: digits) rest
          else .error .badEscape

def readCode (flags : Flags) (letter : Char) (cs : List Char) :
    Except Fault (Char × List Char) := do
  let (braced, digits, rest) ←
    match flags.skip cs with
    | [] => .error .unexpectedEnd
    | '{' :: rest => do
        let (digits, rest) ← readBracedHex flags (rest.length + 1) [] rest
        pure (true, digits, rest)
    | rest => do
        let count := if letter = 'x' then 2 else if letter = 'u' then 4 else 8
        let (digits, rest) ← readFixedHex flags count [] rest
        pure (false, digits, rest)
  match charOfCode? (readHex digits) with
  | none => .error .badEscape
  | some c =>
      if letter = 'x' ∧ !braced ∧ !flags.unicode ∧ 127 < c.toNat then .error .notAscii
      else .ok (c, rest)

def readPropertyName (flags : Flags) : Nat -> List Char -> List Char ->
    Except Fault (List Char × List Char)
  | 0, _, _ => .error .unexpectedEnd
  | fuel + 1, name, cs =>
      match flags.skip cs with
      | [] => .error .unexpectedEnd
      | '}' :: rest => .ok (name.reverse, rest)
      | c :: rest => readPropertyName flags fuel (c :: name) rest

def propertyClass? (name : List Char) : Option CharClass :=
  match Text.splitFirst ['!', '='] name with
  | some (property, value) => valuedClass? property value
  | none =>
      match Text.splitFirst [':'] name with
      | some (property, value) => valuedClass? property value
      | none =>
          match Text.splitFirst ['='] name with
          | some (property, value) => valuedClass? property value
          | none => namedClass? name

/-- A class as it is meant where case may not count, complemented if asked for. -/
def finishClass (flags : Flags) (negated : Bool) (cls : CharClass) :
    Except Fault CharClass :=
  if flags.unicode then
    let cls := if flags.ignoreCase then .folded cls else cls
    .ok (if negated then .compl cls else cls)
  else
    let cls := if flags.ignoreCase then .foldedAscii cls else cls
    let cls := if negated then .compl cls else cls
    if cls.isAsciiAmongBytes then .ok cls else .error .notAscii

def readProperty (flags : Flags) (negated : Bool) (cs : List Char) :
    Except Fault (CharClass × List Char) := do
  let (name, rest) ←
    match flags.skip cs with
    | [] => .error .unexpectedEnd
    | '{' :: rest => readPropertyName flags (rest.length + 1) [] rest
    | '\\' :: _ => .error .badEscape
    | c :: rest => pure ([c], rest)
  if !flags.unicode then .error .notAscii
  else
    match propertyClass? name with
    | none => .error .unknownProperty
    | some cls => do
        let cls ← finishClass flags negated cls
        pure (cls, rest)

def asciiDigit : CharClass := .table [(48, 57)]

/-- The ASCII blanks: tabulator to carriage return, and the space. -/
def asciiSpace : CharClass := .table [(9, 13), (32, 32)]

def asciiWord : CharClass := .table [(48, 57), (65, 90), (95, 95), (97, 122)]

def letterClass? (flags : Flags) (letter : Char) : Option (Except Fault CharClass) :=
  let choose (wide narrow : CharClass) (negated : Bool) : Except Fault CharClass :=
    if flags.unicode then .ok (if negated then .compl wide else wide)
    else if negated then .error .notAscii
    else .ok narrow
  match letter with
  | 'd' => some (choose decimalDigit asciiDigit false)
  | 'D' => some (choose decimalDigit asciiDigit true)
  | 's' => some (choose whiteSpace asciiSpace false)
  | 'S' => some (choose whiteSpace asciiSpace true)
  | 'w' => some (choose wordCharacter asciiWord false)
  | 'W' => some (choose wordCharacter asciiWord true)
  | _ => none

def Flags.word (flags : Flags) : CharClass :=
  if flags.unicode then wordCharacter else asciiWord

def isBoundaryLetter (c : Char) : Bool :=
  ('a' ≤ c && c ≤ 'z') || ('A' ≤ c && c ≤ 'Z') || c == '-'

def readBoundaryName (flags : Flags) : Nat -> List Char -> List Char -> List Char × List Char
  | 0, name, cs => (name.reverse, cs)
  | fuel + 1, name, cs =>
      match cs with
      | [] => (name.reverse, [])
      | c :: rest =>
          if isBoundaryLetter c then readBoundaryName flags fuel (c :: name) (flags.skip rest)
          else (name.reverse, c :: rest)

/--
Reads what may follow the word boundary: a brace with the name of a boundary on one side. A brace
with anything else is left alone, for it counts a repetition.
-/
def readBoundary (flags : Flags) (cs : List Char) :
    Except Fault (Assertion × List Char) :=
  let w := flags.word
  match cs with
  | '{' :: rest =>
      match flags.skip rest with
      | [] => .error .unexpectedEnd
      | c :: inner =>
          if !isBoundaryLetter c then .ok (.wordBoundary w, cs)
          else
            let (name, rest) := readBoundaryName flags (inner.length + 2) [] (c :: inner)
            match rest with
            | '}' :: rest =>
                if name = "start".toList then .ok (.wordStart w, rest)
                else if name = "end".toList then .ok (.wordEnd w, rest)
                else if name = "start-half".toList then .ok (.wordStartHalf w, rest)
                else if name = "end-half".toList then .ok (.wordEndHalf w, rest)
                else .error .badEscape
            | _ => .error .badEscape
  | _ => .ok (.wordBoundary w, cs)

def isEscapable (c : Char) : Bool :=
  c.toNat < 128 && !c.isAlphanum && c != '<' && c != '>'

def Escape.read (flags : Flags) : List Char -> Except Fault (Escape × List Char)
  | [] => .error .unexpectedEnd
  | c :: rest =>
      if c = 'x' ∨ c = 'u' ∨ c = 'U' then do
        let (c, rest) ← readCode flags c rest
        pure (.literal c, rest)
      else if c = 'p' ∨ c = 'P' then do
        let (cls, rest) ← readProperty flags (c == 'P') rest
        pure (.members cls, rest)
      else
        match letterClass? flags c with
        | some cls => do
            let cls ← cls
            pure (.members cls, rest)
        | none =>
            if isEscapable c then .ok (.literal c, rest)
            else
              match c with
              | 'a' => .ok (.literal '\x07', rest)
              | 'f' => .ok (.literal '\x0c', rest)
              | 't' => .ok (.literal '\t', rest)
              | 'n' => .ok (.literal '\n', rest)
              | 'r' => .ok (.literal '\r', rest)
              | 'v' => .ok (.literal '\x0b', rest)
              | 'A' => .ok (.look .textStart, rest)
              | 'z' => .ok (.look .textEnd, rest)
              | 'b' => do
                  let (assertion, rest) ← readBoundary flags rest
                  pure (.look assertion, rest)
              | 'B' => .ok (.look (.notWordBoundary flags.word), rest)
              | '<' => .ok (.look (.wordStart flags.word), rest)
              | '>' => .ok (.look (.wordEnd flags.word), rest)
              | _ => .error .badEscape

end Pattern
end AnalysisHarness
