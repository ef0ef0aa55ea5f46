import AnalysisHarness.Text.Utf8
import AnalysisHarness.Unicode.CodeTable

/-!
# Printing in the shell

What the printing commands make of their arguments: backslashes with letters or octal digits stand
for other characters, and may end the output.
-/

namespace AnalysisHarness
namespace Shell

open Text

def isOctal (c : Char) : Bool := '0' ≤ c && c ≤ '7'

def octalByte (digits : List Char) : UInt8 :=
  UInt8.ofNat (digits.foldl (fun n c => n * 8 + (c.toNat - 48)) 0)

def letterByte? : Char -> Option UInt8
  | 'a' => some 7
  | 'b' => some 8
  | 'f' => some 12
  | 'n' => some 10
  | 'r' => some 13
  | 't' => some 9
  | 'v' => some 11
  | '\\' => some 92
  | _ => none

/-- Leading octal digits, at most three. -/
def takeOctal (cs : List Char) : List Char := (cs.take 3).takeWhile isOctal

def charBytes (c : Char) : Bytes := String.utf8EncodeChar c

/--
The bytes of an argument in which backslashes count; octal digits need a zero before them. The
second part of the answer tells whether the output ends here.
-/
def unescape : Nat -> List Char -> Bytes × Bool
  | 0, _ => ([], false)
  | fuel + 1, cs =>
      match cs with
      | [] => ([], false)
      | '\\' :: 'c' :: _ => ([], true)
      | '\\' :: '0' :: rest =>
          let digits := takeOctal rest
          let (bytes, stop) := unescape fuel (rest.drop digits.length)
          (octalByte digits :: bytes, stop)
      | '\\' :: c :: rest =>
          let (bytes, stop) := unescape fuel rest
          match letterByte? c with
          | some b => (b :: bytes, stop)
          | none => (92 :: charBytes c ++ bytes, stop)
      | c :: rest =>
          let (bytes, stop) := unescape fuel rest
          (charBytes c ++ bytes, stop)

def echo (arguments : List (List Char)) : Bytes :=
  let (noBreak, arguments) :=
    match arguments with
    | ['-', 'n'] :: rest => (true, rest)
    | _ => (false, arguments)
  let line := (List.intersperse [' '] arguments).flatten
  let (bytes, stop) := unescape (line.length + 1) line
  if noBreak || stop then bytes else bytes ++ [10]

end Shell
end AnalysisHarness
