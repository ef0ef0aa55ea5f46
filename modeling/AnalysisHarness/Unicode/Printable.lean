import AnalysisHarness.Unicode.Property

/-!
# Printable characters

The characters that show as something: not controls, not formatting, not assigned to private use
or not assigned at all, and no separator but the space.
-/

namespace AnalysisHarness
namespace Unicode

def unprintable : CharClass :=
  .unionAll [basicCategory "cc", basicCategory "cf", basicCategory "co", .compl assigned,
    basicCategory "zl", basicCategory "zp", basicCategory "zs"]

def combining : CharClass := (binaryProperty? "graphemeextend").getD .none

def isPrintable (c : Char) : Bool :=
  c == ' ' || (!unprintable.has c.toNat && !combining.has c.toNat)

def quoteChar (c : Char) : List Char :=
  if c = '"' then ['\\', '"']
  else if c = '\\' then ['\\', '\\']
  else if c = '\n' then ['\\', 'n']
  else if c = '\r' then ['\\', 'r']
  else if c = '\t' then ['\\', 't']
  else if c = '\x00' then ['\\', '0']
  else if 32 ≤ c.toNat ∧ c.toNat < 127 then [c]
  else if isPrintable c then [c]
  else '\\' :: 'u' :: '\x7b' :: Nat.toDigits 16 c.toNat ++ ['\x7d']

def quoted (s : String) : String :=
  String.ofList ('"' :: s.toList.flatMap quoteChar ++ ['"'])

end Unicode
end AnalysisHarness
