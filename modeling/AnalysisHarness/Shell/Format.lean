import AnalysisHarness.Decimal.Literal
import AnalysisHarness.Shell.Arithmetic
import AnalysisHarness.Shell.Print

/-!
# Formats of the shell

A format holds directives, each of which takes the next argument and shows it in its own way. It is
used again as long as there are arguments left.
-/

namespace AnalysisHarness
namespace Shell

open Text

/-- A directive: flags, how wide and how exact the output is, and what is shown. -/
structure Directive where
  flags : List Char
  width : Nat
  precision : Option Nat
  letter : Char
  deriving Repr

structure Printing where
  bytes : Bytes
  arguments : List (List Char)
  complaints : List String
  isRefused : Bool
  isOver : Bool

namespace Printing

def add (p : Printing) (bytes : Bytes) : Printing := { p with bytes := p.bytes ++ bytes }

def complain (p : Printing) (complaint : Option String) : Printing :=
  { p with complaints := p.complaints ++ complaint.toList }

def refuse (p : Printing) (reason : String) : Printing :=
  { p.complain (some reason) with isRefused := true, isOver := true }

end Printing

def textBytes (cs : List Char) : Bytes := cs.flatMap charBytes

def fill (left zero : Bool) (width : Nat) (bytes : Bytes) : Bytes :=
  let missing := width - bytes.length
  if left then bytes ++ List.replicate missing 32
  else if zero then List.replicate missing 48 ++ bytes
  else List.replicate missing 32 ++ bytes

def fillNumber (d : Directive) (zero : Bool) (sign digits : List Char) : Bytes :=
  if zero ∧ '0' ∈ d.flags ∧ '-' ∉ d.flags then
    textBytes (sign ++ List.replicate (d.width - sign.length - digits.length) '0' ++ digits)
  else fill (d.flags.contains '-') false d.width (textBytes (sign ++ digits))

def shownSign (d : Directive) (negative : Bool) : List Char :=
  if negative then ['-']
  else if '+' ∈ d.flags then ['+']
  else if ' ' ∈ d.flags then [' ']
  else []

/--
The integer that an argument stands for, with a complaint if it does not stand for one; a quotation
mark at its beginning makes it stand for the character after that.
-/
def readInteger (low high : Int) (argument : List Char) : Int × Option String :=
  match argument with
  | '\'' :: c :: _ => (c.toNat, none)
  | '"' :: c :: _ => (c.toNat, none)
  | _ =>
      let (negative, digits) := Arithmetic.readSigned argument
      let (n, rest) := Arithmetic.readNumeral digits
      let value : Int := if negative then -n else n
      let shown := String.ofList argument
      let complaint :=
        if rest.length = digits.length ∧ !argument.isEmpty then some ": expected numeric value"
        else if !rest.isEmpty then some ": not completely converted"
        else if value < low ∨ high < value then some ": Numerical result out of range"
        else none
      (max low (min high value), complaint.map (shown ++ ·))

def unsignedDigits (d : Directive) (n : Nat) : List Char :=
  let alternative := d.flags.contains '#' && n != 0
  match d.letter with
  | 'x' => (if alternative then ['0', 'x'] else []) ++ Nat.toDigits 16 n
  | 'X' => (if alternative then ['0', 'X'] else []) ++ (Nat.toDigits 16 n).map Char.toUpper
  | 'o' => (if alternative then ['0'] else []) ++ Nat.toDigits 8 n
  | _ => Nat.toDigits 10 n

def exactDigits (d : Directive) (digits : List Char) : List Char :=
  List.replicate (d.precision.getD 0 - digits.length) '0' ++ digits

def fixedDigits (places : Nat) : Binary64 -> List Char
  | .nan => ['n', 'a', 'n']
  | .infinite _ => ['i', 'n', 'f']
  | .finite _ m e =>
      let scaled := Binary64.roundHalfEven (m * 2 ^ e * 10 ^ places) (2 ^ 1074)
      let whole := Nat.toDigits 10 (scaled / 10 ^ places)
      let fraction := Nat.toDigits 10 (scaled % 10 ^ places)
      if places = 0 then whole
      else whole ++ '.' :: List.replicate (places - fraction.length) '0' ++ fraction

def readFraction (argument : List Char) : Binary64 × Option String :=
  match Decimal.read (argument.dropWhile Char.isWhitespace) with
  | some x => (x, none)
  | none =>
      (.zero false,
        if argument.isEmpty then none
        else some (String.ofList argument ++ ": expected numeric value"))

def Directive.show? (d : Directive) (argument : List Char) (p : Printing) : Option Printing :=
  let signed : Option Printing :=
    let (n, complaint) := readInteger (-(2 ^ 63)) (2 ^ 63 - 1) argument
    let digits := exactDigits d (Nat.toDigits 10 n.natAbs)
    some ((p.add (fillNumber d d.precision.isNone (shownSign d (decide (n < 0))) digits)).complain
      complaint)
  let unsigned : Option Printing :=
    let (n, complaint) := readInteger (-(2 ^ 63)) (2 ^ 64 - 1) argument
    let digits := exactDigits d (unsignedDigits d (n % 2 ^ 64).toNat)
    some ((p.add (fillNumber d d.precision.isNone [] digits)).complain complaint)
  let text (bytes : Bytes) : Printing := p.add (fill (d.flags.contains '-') false d.width bytes)
  match d.letter with
  | 's' =>
      let bytes := textBytes argument
      some (text (match d.precision with | some n => bytes.take n | none => bytes))
  | 'b' =>
      let (bytes, stop) := unescape (argument.length + 1) argument
      some { text bytes with isOver := stop }
  | 'c' => some (text (if argument.isEmpty then [0] else (textBytes argument).take 1))
  | 'd' => signed
  | 'i' => signed
  | 'u' => unsigned
  | 'x' => unsigned
  | 'X' => unsigned
  | 'o' => unsigned
  | 'f' =>
      let (x, complaint) := readFraction argument
      let digits := fixedDigits (d.precision.getD 6) x
      some ((p.add (fillNumber d true (shownSign d x.isNegative) digits)).complain complaint)
  | _ => none

def readCount (cs : List Char) (p : Printing) : Int × List Char × Printing :=
  match cs with
  | '*' :: rest =>
      let (n, complaint) := readInteger (-(2 ^ 31)) (2 ^ 31 - 1) (p.arguments.head?.getD [])
      (n, rest, { p.complain complaint with arguments := p.arguments.drop 1 })
  | _ => (Decimal.digitsValue (cs.takeWhile Char.isDigit), cs.dropWhile Char.isDigit, p)

def runDirective (cs : List Char) (p : Printing) : List Char × Printing :=
  let flags := cs.takeWhile fun c => ['-', '0', '+', ' ', '#'].contains c
  let (width, rest, p) := readCount (cs.drop flags.length) p
  let flags := if width < 0 then '-' :: flags else flags
  let (precision, rest, p) :=
    match rest with
    | '.' :: rest =>
        let (n, rest, p) := readCount rest p
        (if n < 0 then none else some n.toNat, rest, p)
    | _ => (none, rest, p)
  match rest with
  | [] => ([], p.refuse "missing format character")
  | letter :: rest =>
      let d : Directive := ⟨flags, width.natAbs, precision, letter⟩
      let after := { p with arguments := p.arguments.drop 1 }
      match d.show? (p.arguments.head?.getD []) after with
      | some p => (rest, p)
      | none =>
          let written := cs.take (cs.length - rest.length)
          ([], p.refuse ("%" ++ String.ofList written ++ ": invalid directive"))

def printOnce : Nat -> List Char -> Printing -> Printing
  | 0, _, p => p
  | fuel + 1, cs, p =>
      if p.isOver then p
      else
        match cs with
        | [] => p
        | '%' :: '%' :: rest => printOnce fuel rest (p.add [37])
        | '%' :: rest =>
            let (rest, p) := runDirective rest p
            printOnce fuel rest p
        | '\\' :: c :: rest =>
            let digits := takeOctal (c :: rest)
            if !digits.isEmpty then
              printOnce fuel ((c :: rest).drop digits.length) (p.add [octalByte digits])
            else
              match letterByte? c with
              | some b => printOnce fuel rest (p.add [b])
              | none =>
                  if c = '"' then printOnce fuel rest (p.add [34])
                  else printOnce fuel rest (p.add (92 :: charBytes c))
        | c :: rest => printOnce fuel rest (p.add (charBytes c))

/-- Prints a format again as long as it takes arguments and some are left. -/
def printAll (format : List Char) : Nat -> Printing -> Printing
  | 0, p => p
  | fuel + 1, p =>
      let after := printOnce (format.length + 1) format p
      if after.isOver || after.arguments.isEmpty ||
          after.arguments.length == p.arguments.length then after
      else printAll format fuel after

def printf (format : List Char) (arguments : List (List Char)) : Printing :=
  printAll format (arguments.length + 1) ⟨[], arguments, [], false, false⟩

end Shell
end AnalysisHarness
