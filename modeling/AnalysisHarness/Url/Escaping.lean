import AnalysisHarness.Text.Utf8
import AnalysisHarness.Unicode.CodeTable

/-!
# Escapes in addresses

A byte can be written as a percent sign and two hexadecimal digits. Each part of an address has a
set of characters that must be written so; characters beyond ASCII always are.
-/

namespace AnalysisHarness
namespace Url

open Text

def upperHexDigit (n : Nat) : Char :=
  if n < 10 then Char.ofNat (48 + n) else Char.ofNat (55 + n)

def escapeByte (b : UInt8) : List Char :=
  ['%', upperHexDigit (b.toNat / 16), upperHexDigit (b.toNat % 16)]

def escapeChar (set : Char -> Bool) (c : Char) : List Char :=
  if c.toNat < 128 ∧ !set c then [c] else (String.utf8EncodeChar c).flatMap escapeByte

def escape (set : Char -> Bool) (cs : List Char) : String :=
  String.ofList (cs.flatMap (escapeChar set))

def isControl (c : Char) : Bool := c.toNat < 32 || c.toNat == 127

def inFragment (c : Char) : Bool := isControl c || [' ', '"', '<', '>', '\x60'].contains c

def inPath (c : Char) : Bool := inFragment c || ['#', '?', '\x7b', '\x7d'].contains c

def inQuery (c : Char) : Bool := isControl c || [' ', '"', '#', '<', '>'].contains c

def inWebQuery (c : Char) : Bool := inQuery c || c == '\x27'

def unescape : List Char -> Bytes
  | [] => []
  | '%' :: a :: b :: rest =>
      if Unicode.isHexDigit a ∧ Unicode.isHexDigit b then
        UInt8.ofNat (Unicode.readHex [a, b]) :: unescape rest
      else 37 :: unescape (a :: b :: rest)
  | c :: rest => String.utf8EncodeChar c ++ unescape rest

end Url
end AnalysisHarness
