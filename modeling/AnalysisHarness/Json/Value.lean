import AnalysisHarness.Json.Number
import AnalysisHarness.Text.Keyed

/-!
# JSON values

The value of a form: numbers within range, strings of characters, objects with one value for each
key, in key order. Of several members with the same key the last one counts.
-/

namespace AnalysisHarness

inductive Json where
  | null
  | bool (b : Bool)
  | number (n : Json.Number)
  | string (s : String)
  | array (items : List Json)
  | object (members : List (String × Json))
  deriving Repr, Inhabited

namespace Json

/-- How deeply arrays and objects may nest. -/
def depthLimit : Nat := 127

mutual

/-- The value of a form inside which `depth` arrays and objects may still nest. -/
def ofForm (depth : Nat) : Form -> Except Fault Json
  | .null => .ok .null
  | .bool b => .ok (.bool b)
  | .number t =>
      match t.value? with
      | some n => .ok (.number n)
      | none => .error .outOfRange
  | .string units =>
      match resolveString units with
      | some s => .ok (.string s)
      | none => .error .loneSurrogate
  | .array items =>
      if depth = 0 then .error .tooDeep
      else do
        let items ← ofForms (depth - 1) items
        pure (.array items)
  | .object members =>
      if depth = 0 then .error .tooDeep
      else do
        let members ← ofMembers (depth - 1) members
        pure (.object (Text.Keyed.ofPairs members))

def ofForms (depth : Nat) : List Form -> Except Fault (List Json)
  | [] => .ok []
  | form :: forms => do
      let item ← ofForm depth form
      let items ← ofForms depth forms
      pure (item :: items)

def ofMembers (depth : Nat) :
    List (List StringUnit × Form) -> Except Fault (List (String × Json))
  | [] => .ok []
  | (key, form) :: members => do
      let key ←
        match resolveString key with
        | some key => pure key
        | none => .error .loneSurrogate
      let value ← ofForm depth form
      let members ← ofMembers depth members
      pure ((key, value) :: members)

end

def read (text : String) : Except Fault Json := do
  let form ← Form.read text.toList
  ofForm depthLimit form

/-- A text that was read and is not JSON, with what is wrong with it. -/
structure ReadError where
  fault : Fault
  text : String
  deriving DecidableEq, Repr

def member? (key : String) : Json -> Option Json
  | object members => Text.Keyed.find? members key
  | _ => none

end Json
end AnalysisHarness
