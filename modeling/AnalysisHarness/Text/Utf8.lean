import AnalysisHarness.Text.Segments

/-!
# UTF-8

Bytes are read into characters one maximal well-formed or ill-formed stretch at a time. Strict
reading refuses ill-formed bytes; lenient reading puts one replacement character in place of each
ill-formed stretch, so that it never fails and never touches the bytes around it.
-/

namespace AnalysisHarness
namespace Text

abbrev Bytes := List UInt8

def replacement : Char := '\uFFFD'

def encode (s : String) : Bytes :=
  s.toList.flatMap String.utf8EncodeChar

/-- For a lead byte: how many bytes follow it, and the bounds of the first of them. -/
def leadByte (b : UInt8) : Option (Nat × UInt8 × UInt8) :=
  if 0xC2 ≤ b ∧ b ≤ 0xDF then some (1, 0x80, 0xBF)
  else if b = 0xE0 then some (2, 0xA0, 0xBF)
  else if b = 0xED then some (2, 0x80, 0x9F)
  else if 0xE1 ≤ b ∧ b ≤ 0xEF then some (2, 0x80, 0xBF)
  else if b = 0xF0 then some (3, 0x90, 0xBF)
  else if 0xF1 ≤ b ∧ b ≤ 0xF3 then some (3, 0x80, 0xBF)
  else if b = 0xF4 then some (3, 0x80, 0x8F)
  else none

def leadBits (more : Nat) (b : UInt8) : Nat :=
  b.toNat % (if more = 1 then 32 else if more = 2 then 16 else 8)

def isContinuation (b : UInt8) : Bool :=
  0x80 ≤ b && b ≤ 0xBF

def addBits (value : Nat) (b : UInt8) : Nat :=
  value * 64 + b.toNat % 64

/--
The stretches of a byte sequence: a character for each well-formed one, nothing for each
ill-formed one. An ill-formed stretch is as much of a character as could be read before the byte
that does not fit, or else a single byte.
-/
def stretches : Bytes -> List (Option Char)
  | [] => []
  | b :: r =>
      if b < 0x80 then some (Char.ofNat b.toNat) :: stretches r
      else
        match leadByte b with
        | none => none :: stretches r
        | some (more, low, high) =>
            match r with
            | [] => [none]
            | b1 :: r1 =>
                if low ≤ b1 ∧ b1 ≤ high then
                  if more = 1 then
                    some (Char.ofNat (addBits (leadBits 1 b) b1)) :: stretches r1
                  else
                    match r1 with
                    | [] => [none]
                    | b2 :: r2 =>
                        if isContinuation b2 then
                          if more = 2 then
                            some (Char.ofNat (addBits (addBits (leadBits 2 b) b1) b2)) ::
                              stretches r2
                          else
                            match r2 with
                            | [] => [none]
                            | b3 :: r3 =>
                                if isContinuation b3 then
                                  some (Char.ofNat (addBits (addBits (addBits
                                    (leadBits 3 b) b1) b2) b3)) :: stretches r3
                                else none :: stretches (b3 :: r3)
                        else none :: stretches (b2 :: r2)
                else none :: stretches (b1 :: r1)

/-- The characters of a byte sequence, each ill-formed stretch read as the replacement. -/
def decodeLenient (bytes : Bytes) : String :=
  String.ofList ((stretches bytes).map fun c => c.getD replacement)

/-- The text whose bytes these are, if they are well formed. -/
def decodeStrict (bytes : Bytes) : Option String :=
  ((stretches bytes).mapM id).map String.ofList

end Text
end AnalysisHarness
