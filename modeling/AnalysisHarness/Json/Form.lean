import AnalysisHarness.Decimal.Literal
import AnalysisHarness.Unicode.CodeTable

/-!
# JSON texts

The grammar of JSON. A text is read into its form first: numbers as they are written, strings as
characters and escaped code units. What a form is worth, whether a number is too large and whether
the escaped units of a string are characters, is decided by whoever needs the value.
-/

namespace AnalysisHarness
namespace Json

inductive StringUnit where
  | char (c : Char)
  | unit (code : Nat)
  deriving DecidableEq, Repr

/-- A number as it is written. -/
structure NumberText where
  negative : Bool
  whole : List Char
  fraction : List Char
  exponent : Option (Bool × List Char)
  deriving DecidableEq, Repr

/-- The form of a JSON text. -/
inductive Form where
  | null
  | bool (b : Bool)
  | number (text : NumberText)
  | string (units : List StringUnit)
  | array (items : List Form)
  | object (members : List (List StringUnit × Form))
  deriving Repr, Inhabited

inductive Fault where
  | malformed
  | trailing
  | tooDeep
  | outOfRange
  | loneSurrogate
  deriving DecidableEq, Repr

def isSpace (c : Char) : Bool :=
  c == ' ' || c == '\n' || c == '\t' || c == '\r'

def skipSpace (cs : List Char) : List Char := cs.dropWhile isSpace

def escapedChar? : Char -> Option Char
  | '"' => some '"'
  | '\\' => some '\\'
  | '/' => some '/'
  | 'b' => some '\x08'
  | 'f' => some '\x0c'
  | 'n' => some '\n'
  | 'r' => some '\r'
  | 't' => some '\t'
  | _ => none

def consUnit (u : StringUnit) :
    Except Fault (List StringUnit × List Char) ->
    Except Fault (List StringUnit × List Char)
  | .ok (units, rest) => .ok (u :: units, rest)
  | .error e => .error e

def readString : List Char -> Except Fault (List StringUnit × List Char)
  | [] => .error .malformed
  | '"' :: rest => .ok ([], rest)
  | '\\' :: 'u' :: a :: b :: c :: d :: rest =>
      if [a, b, c, d].all Unicode.isHexDigit then
        consUnit (.unit (Unicode.readHex [a, b, c, d])) (readString rest)
      else .error .malformed
  | '\\' :: letter :: rest =>
      match escapedChar? letter with
      | some c => consUnit (.char c) (readString rest)
      | none => .error .malformed
  | c :: rest =>
      if c.toNat < 32 ∨ c = '\\' then .error .malformed
      else consUnit (.char c) (readString rest)

def readFractionPart : List Char -> Except Fault (List Char × List Char)
  | '.' :: rest =>
      let (fraction, rest) := Decimal.spanDigits rest
      if fraction.isEmpty then .error .malformed else .ok (fraction, rest)
  | rest => .ok ([], rest)

def readExponentPart : List Char -> Except Fault (Option (Bool × List Char) × List Char)
  | [] => .ok (none, [])
  | c :: rest =>
      if c = 'e' ∨ c = 'E' then
        let (negative, rest) := Decimal.readSign rest
        let (digits, rest) := Decimal.spanDigits rest
        if digits.isEmpty then .error .malformed else .ok (some (negative, digits), rest)
      else .ok (none, c :: rest)

def readNumber (cs : List Char) : Except Fault (NumberText × List Char) :=
  let (negative, cs) :=
    match cs with
    | '-' :: rest => (true, rest)
    | _ => (false, cs)
  let (whole, rest) := Decimal.spanDigits cs
  if whole.isEmpty ∨ (1 < whole.length ∧ whole.head? = some '0') then .error .malformed
  else do
    let (fraction, rest) ← readFractionPart rest
    let (exponent, rest) ← readExponentPart rest
    pure (⟨negative, whole, fraction, exponent⟩, rest)

mutual

/-- Reads a value; `fuel` bounds the number of values and members in it. -/
def readForm : Nat -> List Char -> Except Fault (Form × List Char)
  | 0, _ => .error .malformed
  | fuel + 1, cs =>
      match skipSpace cs with
      | 'n' :: 'u' :: 'l' :: 'l' :: rest => .ok (.null, rest)
      | 't' :: 'r' :: 'u' :: 'e' :: rest => .ok (.bool true, rest)
      | 'f' :: 'a' :: 'l' :: 's' :: 'e' :: rest => .ok (.bool false, rest)
      | '"' :: rest => do
          let (units, rest) ← readString rest
          pure (.string units, rest)
      | '[' :: rest =>
          match skipSpace rest with
          | ']' :: rest => .ok (.array [], rest)
          | rest => do
              let (items, rest) ← readItems fuel rest
              pure (.array items, rest)
      | '{' :: rest =>
          match skipSpace rest with
          | '}' :: rest => .ok (.object [], rest)
          | rest => do
              let (members, rest) ← readMembers fuel rest
              pure (.object members, rest)
      | rest => do
          let (number, rest) ← readNumber rest
          pure (.number number, rest)

def readItems : Nat -> List Char -> Except Fault (List Form × List Char)
  | 0, _ => .error .malformed
  | fuel + 1, cs => do
      let (item, rest) ← readForm fuel cs
      match skipSpace rest with
      | ',' :: rest => do
          let (items, rest) ← readItems fuel rest
          pure (item :: items, rest)
      | ']' :: rest => pure ([item], rest)
      | _ => .error .malformed

def readMembers : Nat -> List Char ->
    Except Fault (List (List StringUnit × Form) × List Char)
  | 0, _ => .error .malformed
  | fuel + 1, cs =>
      match skipSpace cs with
      | '"' :: rest => do
          let (key, rest) ← readString rest
          match skipSpace rest with
          | ':' :: rest => do
              let (value, rest) ← readForm fuel rest
              match skipSpace rest with
              | ',' :: rest => do
                  let (members, rest) ← readMembers fuel rest
                  pure ((key, value) :: members, rest)
              | '}' :: rest => pure ([(key, value)], rest)
              | _ => .error .malformed
          | _ => .error .malformed
      | _ => .error .malformed

end

def Form.read (text : List Char) : Except Fault Form := do
  let (form, rest) ← readForm (text.length + 1) text
  if (skipSpace rest).isEmpty then pure form else .error .trailing

/-- The characters of a string, if its code units are those of characters. -/
def resolveUnits : List StringUnit -> Option (List Char)
  | [] => some []
  | .char c :: rest => (resolveUnits rest).map (c :: ·)
  | .unit high :: .unit low :: rest =>
      if 0xD800 ≤ high ∧ high < 0xDC00 then
        if 0xDC00 ≤ low ∧ low < 0xE000 then
          (resolveUnits rest).map
            (Char.ofNat (0x10000 + (high - 0xD800) * 0x400 + (low - 0xDC00)) :: ·)
        else none
      else if 0xDC00 ≤ high ∧ high < 0xE000 then none
      else (resolveUnits (.unit low :: rest)).map (Char.ofNat high :: ·)
  | .unit code :: rest =>
      if 0xD800 ≤ code ∧ code < 0xE000 then none
      else (resolveUnits rest).map (Char.ofNat code :: ·)

def resolveString (units : List StringUnit) : Option String :=
  (resolveUnits units).map String.ofList

end Json
end AnalysisHarness
