import AnalysisHarness.Toml.Value
import AnalysisHarness.Unicode.CodeTable

/-!
# Quoted texts

The four kinds of strings: in double quotation marks, where escape sequences are replaced, and in
single ones, where nothing is; each on one line, or on several between tripled marks.
-/

namespace AnalysisHarness
namespace Toml

def isSpace (c : Char) : Bool := c == ' ' || c == '\t'

def skipSpace (cs : List Char) : List Char := cs.dropWhile isSpace

def isPlain (c : Char) : Bool := c == '\t' || (32 ≤ c.toNat && c.toNat != 127)

def lineBreak? : List Char -> Option (List Char)
  | '\n' :: rest => some rest
  | '\r' :: '\n' :: rest => some rest
  | _ => none

def charOfCode (n : Nat) : Except Fault Char :=
  if h : n.isValidChar then .ok (Char.ofNatAux n h) else .error .badEscape

def readCode (count : Nat) (cs : List Char) : Except Fault (Char × List Char) :=
  let digits := cs.take count
  if digits.length = count ∧ digits.all Unicode.isHexDigit then do
    let c ← charOfCode (Unicode.readHex digits)
    pure (c, cs.drop count)
  else .error .badEscape

def readEscape : List Char -> Except Fault (Char × List Char)
  | 'b' :: rest => .ok ('\x08', rest)
  | 'f' :: rest => .ok ('\x0c', rest)
  | 'n' :: rest => .ok ('\n', rest)
  | 'r' :: rest => .ok ('\r', rest)
  | 't' :: rest => .ok ('\t', rest)
  | '\\' :: rest => .ok ('\\', rest)
  | '"' :: rest => .ok ('"', rest)
  | 'u' :: rest => readCode 4 rest
  | 'U' :: rest => readCode 8 rest
  | _ => .error .badEscape

/-- Reads a string on one line after its opening double mark; `text` is what was read, reversed. -/
def readBasic : Nat -> List Char -> List Char -> Except Fault (List Char × List Char)
  | 0, _, _ => .error .malformed
  | fuel + 1, text, cs =>
      match cs with
      | [] => .error .malformed
      | '"' :: rest => .ok (text.reverse, rest)
      | '\\' :: rest => do
          let (c, rest) ← readEscape rest
          readBasic fuel (c :: text) rest
      | c :: rest => if isPlain c then readBasic fuel (c :: text) rest else .error .malformed

def readLiteral : List Char -> List Char -> Except Fault (List Char × List Char)
  | _, [] => .error .malformed
  | text, c :: rest =>
      if c = '\'' then .ok (text.reverse, rest)
      else if isPlain c then readLiteral (c :: text) rest
      else .error .malformed

def skipBlankLines : List Char -> List Char
  | '\r' :: '\n' :: rest => skipBlankLines rest
  | c :: rest => if isSpace c || c == '\n' then skipBlankLines rest else c :: rest
  | [] => []

/-- How many marks there are at the beginning, five at most. -/
def countMarks (mark : Char) (cs : List Char) : Nat := ((cs.take 5).takeWhile (· == mark)).length

/--
Reads a string on several lines after its opening marks, or line break. Up to two marks in a row
are part of the text, also just before the closing marks. A backslash at the end of a line takes
the line break and all blanks after it away.
-/
def readMultiline (mark : Char) (escapes : Bool) : Nat -> List Char -> List Char ->
    Except Fault (List Char × List Char)
  | 0, _, _ => .error .malformed
  | fuel + 1, text, cs =>
      let marks := countMarks mark cs
      if 3 ≤ marks then
        .ok ((List.replicate (marks - 3) mark ++ text).reverse, cs.drop marks)
      else
        match lineBreak? cs with
        | some rest => readMultiline mark escapes fuel ('\n' :: text) rest
        | none =>
            match cs with
            | [] => .error .malformed
            | c :: rest =>
                if c = '\\' ∧ escapes then
                  match lineBreak? (skipSpace rest) with
                  | some rest => readMultiline mark escapes fuel text (skipBlankLines rest)
                  | none => do
                      let (c, rest) ← readEscape rest
                      readMultiline mark escapes fuel (c :: text) rest
                else if isPlain c then readMultiline mark escapes fuel (c :: text) rest
                else .error .malformed

def dropFirstBreak (cs : List Char) : List Char := (lineBreak? cs).getD cs

def readText (cs : List Char) : Except Fault (String × List Char) := do
  let (text, rest) ←
    match cs with
    | '"' :: '"' :: '"' :: rest => readMultiline '"' true (rest.length + 1) [] (dropFirstBreak rest)
    | '\'' :: '\'' :: '\'' :: rest =>
        readMultiline '\'' false (rest.length + 1) [] (dropFirstBreak rest)
    | '"' :: rest => readBasic (rest.length + 1) [] rest
    | '\'' :: rest => readLiteral [] rest
    | _ => .error .malformed
  pure (String.ofList text, rest)

end Toml
end AnalysisHarness
