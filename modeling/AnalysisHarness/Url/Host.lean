import AnalysisHarness.Text.Search
import AnalysisHarness.Text.Segments
import AnalysisHarness.Unicode.Property
import AnalysisHarness.Url.Escaping
import AnalysisHarness.Url.Punycode

/-!
# Hosts

A host is a name or a number. Numbers can be written in several ways and are shown in one of them;
names are shown in lower case and in ASCII.
-/

namespace AnalysisHarness
namespace Url

open Text

inductive Host where
  | name (text : String)
  | ipv4 (number : Nat)
  | ipv6 (pieces : List Nat)
  deriving DecidableEq, Repr

namespace Host

/-- A number as it is written in an address: octal after a zero, hexadecimal after a zero and x. -/
def readNumeral : List Char -> Option Nat
  | [] => none
  | '0' :: 'x' :: digits | '0' :: 'X' :: digits =>
      if digits.all Unicode.isHexDigit then some (Unicode.readHex digits) else none
  | '0' :: digits =>
      if digits.all fun c => '0' ≤ c && c ≤ '7' then
        some (digits.foldl (fun n c => n * 8 + Unicode.hexValue c) 0)
      else none
  | digits =>
      if digits.all Char.isDigit then
        some (digits.foldl (fun n c => n * 10 + Unicode.hexValue c) 0)
      else none

def labels (name : List Char) : List (List Char) :=
  let parts := segments '.' name
  if 1 < parts.length ∧ parts.getLast? = some [] then parts.dropLast else parts

/-- Whether a name can only be meant as a number. -/
def endsInNumber (name : List Char) : Bool :=
  match (labels name).getLast? with
  | none => false
  | some last => (!last.isEmpty && last.all Char.isDigit) || (readNumeral last).isSome

/-- The number that several numbers make up, the last of which fills what the others leave. -/
def combine (numbers : List Nat) : Option Nat :=
  match numbers.reverse with
  | [] => none
  | last :: others =>
      if 3 < others.length ∨ others.any (255 < ·) ∨ 256 ^ (4 - others.length) ≤ last then none
      else
        let high := others.reverse.foldl (fun n part => n * 256 + part) 0
        some (high * 256 ^ (4 - others.length) + last)

def readIpv4 (name : List Char) : Option Host := do
  let numbers ← (labels name).mapM readNumeral
  let number ← combine numbers
  pure (.ipv4 number)

def readByte (cs : List Char) : Option Nat :=
  match cs with
  | [] => none
  | '0' :: _ :: _ => none
  | _ =>
      let n := cs.foldl (fun n c => n * 10 + Unicode.hexValue c) 0
      if cs.all Char.isDigit ∧ n < 256 then some n else none

def readPiece (cs : List Char) : Option (List Nat) :=
  if cs.isEmpty ∨ 4 < cs.length ∨ !cs.all Unicode.isHexDigit then none
  else some [Unicode.readHex cs]

def readBytes (cs : List Char) : Option (List Nat) := do
  match (← (segments '.' cs).mapM readByte) with
  | [a, b, c, d] => some [a * 256 + b, c * 256 + d]
  | _ => none

/-- Pieces between colons; at the very end four bytes can stand for the last two. -/
def readPieces : List (List Char) -> Option (List Nat)
  | [] => some []
  | [last] => if last.contains '.' then readBytes last else readPiece last
  | first :: others => do
      let piece ← readPiece first
      let pieces ← readPieces others
      some (piece ++ pieces)

def readSide (cs : List Char) : Option (List Nat) :=
  if cs.isEmpty then some [] else readPieces (segments ':' cs)

/-- Reads eight pieces; two colons stand for as many zeros as are needed. -/
def readIpv6 (cs : List Char) : Option Host := do
  match splitFirst [':', ':'] cs with
  | none =>
      let pieces ← readPieces (segments ':' cs)
      if pieces.length = 8 then some (.ipv6 pieces) else none
  | some (before, after) =>
      let high ← readSide before
      let low ← readSide after
      if before.contains '.' ∨ 7 < high.length + low.length then none
      else some (.ipv6 (high ++ List.replicate (8 - (high.length + low.length)) 0 ++ low))

def readBracketed (cs : List Char) : Option Host :=
  if cs.getLast? = some ']' then readIpv6 cs.dropLast else none

def isForbidden (c : Char) : Bool :=
  ['\x00', '\t', '\n', '\r', ' ', '#', '/', ':', '<', '>', '?', '@', '[', '\\', ']', '^',
    '|'].contains c

def lowerCase (c : Char) : Char :=
  if c.toNat < 128 then c.toLower
  else if (Unicode.basicCategory "lu").has c.toNat then
    let lower := (Unicode.caseOrbit c.toNat).find? (Unicode.basicCategory "ll").has
    Char.ofNat (lower.getD c.toNat)
  else c

def asciiLabel (label : List Char) : List Char :=
  if label.all fun c => c.toNat < 128 then label
  else ['x', 'n', '-', '-'] ++ Punycode.encode label

def asciiName (name : List Char) : List Char :=
  joinSegments ['.'] ((segments '.' (name.map lowerCase)).map asciiLabel)

def read (cs : List Char) : Option Host :=
  match cs with
  | '[' :: rest => readBracketed rest
  | _ => do
      let name ← decodeStrict (unescape cs)
      let name := asciiName name.toList
      if name.isEmpty ∨ name.any fun c => isForbidden c || isControl c || c == '%' then none
      else if endsInNumber name then readIpv4 name
      else some (.name (String.ofList name))

def readVerbatim (cs : List Char) : Option Host :=
  match cs with
  | '[' :: rest => readBracketed rest
  | _ => if cs.any isForbidden then none else some (.name (escape isControl cs))

def writeIpv4 (n : Nat) : String :=
  String.intercalate "." ([n / 256 ^ 3, n / 256 ^ 2 % 256, n / 256 % 256, n % 256].map toString)

def leadingZeros (pieces : List Nat) : Nat := (pieces.takeWhile (· == 0)).length

def longestZeros : List Nat -> Nat
  | [] => 0
  | n :: pieces => Nat.max (leadingZeros (n :: pieces)) (longestZeros pieces)

def zerosAt (count : Nat) : List Nat -> Nat
  | [] => 0
  | n :: pieces => if leadingZeros (n :: pieces) = count then 0 else zerosAt count pieces + 1

def writePieces (pieces : List Nat) : String :=
  String.intercalate ":" (pieces.map fun n => String.ofList (Nat.toDigits 16 n))

def writeIpv6 (pieces : List Nat) : String :=
  let count := longestZeros pieces
  if count < 2 then writePieces pieces
  else
    let start := zerosAt count pieces
    writePieces (pieces.take start) ++ "::" ++ writePieces (pieces.drop (start + count))

def write : Host -> String
  | name text => text
  | ipv4 number => writeIpv4 number
  | ipv6 pieces => "[" ++ writeIpv6 pieces ++ "]"

end Host
end Url
end AnalysisHarness
