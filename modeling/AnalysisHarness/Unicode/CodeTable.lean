import AnalysisHarness.Text.Segments

/-!
# Tables of code points

A table is a list of inclusive ranges in increasing order. The tables of the character database
are written in rows of text, in hexadecimal, with commas between the ranges and a hyphen inside a
range of more than one code point.
-/

namespace AnalysisHarness
namespace Unicode

/-- Inclusive ranges of code points, in increasing order. -/
abbrev CodeTable := List (Nat × Nat)

def CodeTable.has : CodeTable -> Nat -> Bool
  | [], _ => false
  | (low, high) :: rest, n =>
      if n < low then false
      else if n ≤ high then true
      else CodeTable.has rest n

def hexValue (c : Char) : Nat :=
  if '0' ≤ c ∧ c ≤ '9' then c.toNat - 48
  else if 'a' ≤ c ∧ c ≤ 'f' then c.toNat - 87
  else if 'A' ≤ c ∧ c ≤ 'F' then c.toNat - 55
  else 0

def isHexDigit (c : Char) : Bool :=
  ('0' ≤ c && c ≤ '9') || ('a' ≤ c && c ≤ 'f') || ('A' ≤ c && c ≤ 'F')

def readHex (digits : List Char) : Nat :=
  digits.foldl (fun value c => value * 16 + hexValue c) 0

def readRanges (row : String) : CodeTable :=
  (Text.segments ',' row.toList).map fun range =>
    match Text.segments '-' range with
    | [low, high] => (readHex low, readHex high)
    | _ => (readHex range, readHex range)

structure NamedTable where
  names : List String
  rows : List String

def NamedTable.codes (t : NamedTable) : CodeTable := t.rows.flatMap readRanges

def NamedTable.find? (tables : List NamedTable) (name : String) : Option CodeTable :=
  (tables.find? fun t => t.names.contains name).map NamedTable.codes

end Unicode
end AnalysisHarness
