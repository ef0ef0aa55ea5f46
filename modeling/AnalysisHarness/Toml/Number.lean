import AnalysisHarness.Date
import AnalysisHarness.Decimal.Literal
import AnalysisHarness.Toml.Quoted

/-!
# Numbers and dates

Integers of sixty-four bits in four bases, double-precision numbers, and dates and times. Single
underscores may stand between digits.
-/

namespace AnalysisHarness
namespace Toml

/--
Reads digits with single underscores between them, of which there must be at least one. The
underscores are left out of the answer.
-/
def readDigits (isDigit : Char -> Bool) : List Char -> Except Fault (List Char × List Char)
  | c :: '_' :: rest =>
      if isDigit c then do
        let (digits, rest) ← readDigits isDigit rest
        pure (c :: digits, rest)
      else .error .malformed
  | c :: rest =>
      if isDigit c then
        match rest with
        | [] => .ok ([c], [])
        | d :: more =>
            if isDigit d then do
              let (digits, rest) ← readDigits isDigit (d :: more)
              pure (c :: digits, rest)
            else .ok ([c], d :: more)
      else .error .malformed
  | [] => .error .malformed

/-- Reads decimal digits; a zero at the beginning stands alone. -/
def readWhole : List Char -> Except Fault (List Char × List Char)
  | '0' :: rest => .ok (['0'], rest)
  | cs => readDigits Char.isDigit cs

def readSign : List Char -> Bool × List Char
  | '-' :: rest => (true, rest)
  | '+' :: rest => (false, rest)
  | cs => (false, cs)

def digitsValue (base : Nat) (digits : List Char) : Nat :=
  digits.foldl (fun value c => value * base + Unicode.hexValue c) 0

def integerValue (negative : Bool) (n : Nat) : Except Fault Value :=
  if negative then
    if n ≤ 2 ^ 63 then .ok (.integer (-n)) else .error .outOfRange
  else if n < 2 ^ 63 then .ok (.integer n)
  else .error .outOfRange

def readBased (base : Nat) (isDigit : Char -> Bool) (cs : List Char) :
    Except Fault (Value × List Char) := do
  let (digits, rest) ← readDigits isDigit cs
  let value ← integerValue false (digitsValue base digits)
  pure (value, rest)

def readExponent (cs : List Char) : Except Fault (Option Int × List Char) :=
  match cs with
  | [] => .ok (none, [])
  | c :: rest =>
      if c = 'e' ∨ c = 'E' then do
        let (negative, rest) := readSign rest
        let (digits, rest) ← readDigits Char.isDigit rest
        let value : Int := Decimal.digitsValue digits
        pure (some (if negative then -value else value), rest)
      else .ok (none, c :: rest)

def readFraction (cs : List Char) : Except Fault (Option (List Char) × List Char) :=
  match cs with
  | '.' :: rest => do
      let (digits, rest) ← readDigits Char.isDigit rest
      pure (some digits, rest)
  | cs => .ok (none, cs)

def floatValue (x : Binary64) : Except Fault Value :=
  if x = .infinite false then .error .outOfRange else .ok (.float x)

def readDecimal (cs : List Char) : Except Fault (Value × List Char) := do
  let (negative, cs) := readSign cs
  let (whole, rest) ← readWhole cs
  let (fraction, rest) ← readFraction rest
  let (exponent, rest) ← readExponent rest
  match fraction, exponent with
  | none, none => do
      let value ← integerValue negative (Decimal.digitsValue whole)
      pure (value, rest)
  | _, _ => do
      let fraction := fraction.getD []
      let literal : Decimal.Literal :=
        ⟨negative, Decimal.digitsValue (whole ++ fraction), exponent.getD 0 - fraction.length⟩
      let value ← floatValue literal.toBinary64
      pure (value, rest)

def readNumber (cs : List Char) : Except Fault (Value × List Char) :=
  let (negative, unsigned) := readSign cs
  match unsigned with
  | 'i' :: 'n' :: 'f' :: rest => .ok (.float (.infinite negative), rest)
  | 'n' :: 'a' :: 'n' :: rest => .ok (.float .nan, rest)
  | _ =>
      match cs with
      | '0' :: 'x' :: rest => readBased 16 Unicode.isHexDigit rest
      | '0' :: 'o' :: rest => readBased 8 (fun c => '0' ≤ c && c ≤ '7') rest
      | '0' :: 'b' :: rest => readBased 2 (fun c => c == '0' || c == '1') rest
      | _ => readDecimal cs

def readFixed (count : Nat) (cs : List Char) : Option (Nat × List Char) :=
  let digits := cs.take count
  if digits.length = count ∧ digits.all Char.isDigit then
    some (Decimal.digitsValue digits, cs.drop count)
  else none

def readBetween (low high : Nat) (cs : List Char) : Except Fault (Nat × List Char) :=
  match readFixed 2 cs with
  | some (n, rest) => if low ≤ n ∧ n ≤ high then .ok (n, rest) else .error .badDate
  | none => .error .badDate

def expect (c : Char) : List Char -> Except Fault (List Char)
  | d :: rest => if d = c then .ok rest else .error .badDate
  | [] => .error .badDate

/-- Reads fractions of a second to the nanosecond; further digits are dropped. -/
def readNanos (cs : List Char) : Nat × List Char :=
  match cs with
  | '.' :: rest =>
      let (digits, after) := Decimal.spanDigits rest
      if digits.isEmpty then (0, cs)
      else
        let kept := digits.take 9
        (Decimal.digitsValue kept * 10 ^ (9 - kept.length), after)
  | _ => (0, cs)

/-- Reads a time of day; nothing unless an hour and a colon stand at the beginning. -/
def readTime? (cs : List Char) : Option (Except Fault (TimeOfDay × List Char)) :=
  match readFixed 2 cs with
  | some (hour, ':' :: rest) =>
      if hour ≤ 23 then
        some do
          let (minute, rest) ← readBetween 0 59 rest
          let rest ← expect ':' rest
          let (second, rest) ← readBetween 0 60 rest
          let (nanos, rest) := readNanos rest
          pure (⟨hour, minute, second, nanos⟩, rest)
      else none
  | _ => none

def readOffset (cs : List Char) : Except Fault (Option Offset × List Char) :=
  match cs with
  | [] => .ok (none, [])
  | c :: rest =>
      if c = 'Z' ∨ c = 'z' then .ok (some .universal, rest)
      else if c = '+' ∨ c = '-' then do
        let (hours, rest) ← readBetween 0 23 rest
        let rest ← expect ':' rest
        let (minutes, rest) ← readBetween 0 59 rest
        let total : Int := hours * 60 + minutes
        pure (some (.minutes (if c = '-' then -total else total)), rest)
      else .ok (none, c :: rest)

def readTimeOfDay (day : Day) (cs : List Char) : Except Fault (Moment × List Char) :=
  match cs with
  | [] => .ok (⟨some day, none, none⟩, [])
  | c :: rest =>
      if c = 'T' ∨ c = 't' ∨ c = ' ' then
        match readTime? rest with
        | none => .ok (⟨some day, none, none⟩, cs)
        | some time => do
            let (time, rest) ← time
            let (offset, rest) ← readOffset rest
            pure (⟨some day, some time, offset⟩, rest)
      else .ok (⟨some day, none, none⟩, cs)

/-- Reads a day, a time or both; nothing unless the text begins like one of them. -/
def readMoment? (cs : List Char) : Option (Except Fault (Moment × List Char)) :=
  match readFixed 4 cs with
  | some (year, '-' :: rest) =>
      some do
        let (month, rest) ← readBetween 1 12 rest
        let rest ← expect '-' rest
        let (day, rest) ← readBetween 1 31 rest
        if AnalysisHarness.Date.daysInMonth year month < day then .error .badDate
        else readTimeOfDay ⟨year, month, day⟩ rest
  | _ =>
      (readTime? cs).map fun time => do
        let (time, rest) ← time
        pure (⟨none, some time, none⟩, rest)

def readScalar (cs : List Char) : Except Fault (Value × List Char) :=
  match readMoment? cs with
  | some moment => do
      let (moment, rest) ← moment
      pure (.moment moment, rest)
  | none => readNumber cs

end Toml
end AnalysisHarness
