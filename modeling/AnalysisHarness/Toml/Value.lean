import AnalysisHarness.Decimal.Binary64
import AnalysisHarness.Text.Keyed

/-!
# TOML values

What a TOML document holds. Tables keep one value for each key, in key order.
-/

namespace AnalysisHarness
namespace Toml

inductive Fault where
  | malformed
  | badEscape
  | badDate
  | outOfRange
  | duplicateKey
  | tooDeep
  deriving DecidableEq, Repr

/-- A text that was read and is not a document, with what is wrong with it. -/
structure TomlError where
  fault : Fault
  text : String
  deriving DecidableEq, Repr

structure TimeOfDay where
  hour : Nat
  minute : Nat
  second : Nat
  nanosecond : Nat
  deriving DecidableEq, Repr

/-- How far a local time is ahead of the universal one. -/
inductive Offset where
  | universal
  | minutes (m : Int)
  deriving DecidableEq, Repr

structure Day where
  year : Nat
  month : Nat
  day : Nat
  deriving DecidableEq, Repr

structure Moment where
  day : Option Day
  time : Option TimeOfDay
  offset : Option Offset
  deriving DecidableEq, Repr

inductive Value where
  | string (s : String)
  | integer (n : Int)
  | float (x : Binary64)
  | boolean (b : Bool)
  | moment (m : Moment)
  | array (items : List Value)
  | table (entries : List (String × Value))
  deriving Repr, Inhabited

def Value.entry? (key : String) : Value -> Option Value
  | table entries => Text.Keyed.find? entries key
  | _ => none

end Toml
end AnalysisHarness
