import AnalysisHarness.Date
import AnalysisHarness.Decimal.Layout
import AnalysisHarness.Text.Blank
import AnalysisHarness.Toml.Value

/-!
# Printing TOML values

Values on one line. A string is written in double quotation marks if nothing in it has to be
escaped, else in the plainest kind of marks that can hold it.
-/

namespace AnalysisHarness
namespace Toml

open Text

def longestRun (c : Char) (cs : List Char) : Nat :=
  (cs.foldl (fun (best, run) d =>
    let run := if d = c then run + 1 else 0
    (Nat.max best run, run)) (0, 0)).1

def escapeChar (c : Char) : List Char :=
  if c = '\x08' then ['\\', 'b']
  else if c = '\t' then ['\\', 't']
  else if c = '\n' then ['\\', 'n']
  else if c = '\x0c' then ['\\', 'f']
  else if c = '\r' then ['\\', 'r']
  else if c = '"' then ['\\', '"']
  else if c = '\\' then ['\\', '\\']
  else if c.toNat < 32 ∨ c.toNat = 127 then
    let hex := (Nat.toDigits 16 c.toNat).map Char.toUpper
    '\\' :: 'u' :: List.replicate (4 - hex.length) '0' ++ hex
  else [c]

/--
A string between double quotation marks, of which `run` stand just before. On several lines, line
feeds stay as they are, and so do up to two quotation marks in a row.
-/
def escapeAll (multiline : Bool) : Nat -> List Char -> List Char
  | _, [] => []
  | run, c :: rest =>
      if multiline ∧ c = '"' ∧ run < 2 then c :: escapeAll multiline (run + 1) rest
      else if multiline ∧ c = '\n' then c :: escapeAll multiline 0 rest
      else escapeChar c ++ escapeAll multiline 0 rest

def isControl (c : Char) : Bool :=
  (c.toNat < 32 && c != '\t' && c != '\n') || c.toNat == 127

def quoteBasic (s : List Char) : List Char := '"' :: escapeAll false 0 s ++ ['"']

def quoteLiteral (s : List Char) : List Char := '\'' :: s ++ ['\'']

def quoteTripled (mark : Char) (s body : List Char) : List Char :=
  List.replicate 3 mark ++ (if s.contains '\n' then ['\n'] else []) ++ body ++
    List.replicate 3 mark

def quote (text : String) : List Char :=
  let s := text.toList
  let raw := !s.any isControl
  let basic := raw && !s.contains '\\'
  let double := longestRun '"' s
  let single := longestRun '\'' s
  let newline := s.contains '\n'
  if basic && double == 0 && !newline then quoteBasic s
  else if raw && single == 0 && !newline then quoteLiteral s
  else if basic && double ≤ 2 then quoteTripled '"' s (escapeAll true 0 s)
  else if raw && single ≤ 2 then quoteTripled '\'' s s
  else if newline then quoteTripled '"' s (escapeAll true 0 s)
  else quoteBasic s

def writeKey (key : String) : List Char :=
  let s := key.toList
  let raw := !s.any isControl && !s.contains '\n'
  if !s.isEmpty && s.all (fun c => c.isAlphanum || c == '-' || c == '_') then s
  else if raw && !s.contains '\\' && !s.contains '"' then quoteBasic s
  else if raw && !s.contains '\'' then quoteLiteral s
  else quoteBasic s

def Day.write (d : Day) : List Char :=
  AnalysisHarness.Date.padded 4 d.year ++ '-' :: AnalysisHarness.Date.padded 2 d.month ++
    '-' :: AnalysisHarness.Date.padded 2 d.day

def TimeOfDay.write (t : TimeOfDay) : List Char :=
  let two := AnalysisHarness.Date.padded 2
  let fraction := AnalysisHarness.Date.padded 9 t.nanosecond
  two t.hour ++ ':' :: two t.minute ++ ':' :: two t.second ++
    if t.nanosecond = 0 then [] else '.' :: dropEndWhile (· == '0') fraction

def Offset.write : Offset -> List Char
  | universal => ['Z']
  | minutes m =>
      (if m < 0 then '-' else '+') :: AnalysisHarness.Date.padded 2 (m.natAbs / 60) ++
        ':' :: AnalysisHarness.Date.padded 2 (m.natAbs % 60)

def Moment.write (m : Moment) : List Char :=
  let day := (m.day.map Day.write).getD []
  let time := (m.time.map TimeOfDay.write).getD []
  let between := if m.day.isSome && m.time.isSome then ['T'] else []
  day ++ between ++ time ++ (m.offset.map Offset.write).getD []

mutual

def Value.write : Value -> List Char
  | .string s => quote s
  | .integer n => (toString n).toList
  | .float x => Decimal.Layout.positional.write x
  | .boolean b => (if b then "true" else "false").toList
  | .moment m => m.write
  | .array [] => "[]".toList
  | .array (item :: items) => '[' :: Value.write item ++ Value.writeItems items ++ [']']
  | .table [] => ['\x7b', '\x7d']
  | .table ((key, value) :: entries) =>
      '\x7b' :: ' ' :: writeKey key ++ " = ".toList ++ Value.write value ++
        Value.writeEntries entries ++ [' ', '\x7d']

def Value.writeItems : List Value -> List Char
  | [] => []
  | item :: items => ", ".toList ++ Value.write item ++ Value.writeItems items

def Value.writeEntries : List (String × Value) -> List Char
  | [] => []
  | (key, value) :: entries =>
      ", ".toList ++ writeKey key ++ " = ".toList ++ Value.write value ++
        Value.writeEntries entries

end

end Toml
end AnalysisHarness
