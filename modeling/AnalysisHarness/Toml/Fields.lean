import AnalysisHarness.Toml.Printer

/-!
# Fields of structures

A structure is written as a table of its fields, or as an array of them in a fixed order. A field
that is not of the type it should be makes the whole unreadable.
-/

namespace AnalysisHarness
namespace Toml

inductive Misfit where
  | wrongType
  | outOfRange
  | tooShort
  | tooLong
  | missing (field : String)
  | unknownWord (word : String)
  deriving DecidableEq, Repr

structure ShapeError where
  misfit : Misfit
  value : Value
  deriving Repr

/-- The fields of a structure, by their names or by their places. -/
inductive Fields where
  | named (entries : List (String × Value))
  | listed (items : List Value)

namespace Fields

def ofValue : Value -> Except Misfit Fields
  | .table entries => .ok (named entries)
  | .array items => .ok (listed items)
  | _ => .error .wrongType

def find? (fields : Fields) (place : Nat) (name : String) : Option Value :=
  match fields with
  | named entries => Text.Keyed.find? entries name
  | listed items => items[place]?

def exceeds (fields : Fields) (count : Nat) : Bool :=
  match fields with
  | named _ => false
  | listed items => count < items.length

def withDefault (fields : Fields) (place : Nat) (name : String)
    (read : Value -> Except Misfit α) (default : α) : Except Misfit α :=
  match fields.find? place name with
  | none => .ok default
  | some v => read v

/-- A field that may be left out of a table, but not of an array. -/
def optional (fields : Fields) (place : Nat) (name : String)
    (read : Value -> Except Misfit α) : Except Misfit (Option α) :=
  match fields.find? place name, fields with
  | some v, _ => (read v).map some
  | none, named _ => .ok none
  | none, listed _ => .error .tooShort

def required (fields : Fields) (place : Nat) (name : String)
    (read : Value -> Except Misfit α) : Except Misfit α :=
  match fields.find? place name with
  | none => .error (.missing name)
  | some v => read v

end Fields

def asString : Value -> Except Misfit String
  | .string s => .ok s
  | _ => .error .wrongType

/-- A string, or a date or time as it is written. -/
def asWritten : Value -> Except Misfit String
  | .string s => .ok s
  | .moment m => .ok (String.ofList m.write)
  | _ => .error .wrongType

def asNatural (bound : Nat) : Value -> Except Misfit Nat
  | .integer n =>
      if 0 ≤ n ∧ n < bound then .ok n.toNat else .error .outOfRange
  | _ => .error .wrongType

def asBoolean : Value -> Except Misfit Bool
  | .boolean b => .ok b
  | _ => .error .wrongType

def asNumber : Value -> Except Misfit Binary64
  | .integer n => .ok (.ofInt n)
  | .float x => .ok x
  | _ => .error .wrongType

end Toml
end AnalysisHarness
