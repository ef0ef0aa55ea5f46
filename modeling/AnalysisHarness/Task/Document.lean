import AnalysisHarness.Json.Form
import AnalysisHarness.Task.Status
import AnalysisHarness.Text.Blank

/-!
# Task documents

A server describes a task by a JSON object with the member "task", an object with the member
"status". Other members do not matter, whatever their values, but none of the two may stand twice.
Instead of an object with one known member, an array of its value will do.
-/

namespace AnalysisHarness
namespace Task

open Json

/-- The values of the members with a key, if all keys are texts. -/
def valuesOf? (key : String) (members : List (List StringUnit × Form)) : Option (List Form) := do
  let keyed ← members.mapM fun m => (resolveString m.1).map fun k => (k, m.2)
  pure ((keyed.filter fun m => m.1 == key).map Prod.snd)

/-- The value of the one member that a structure has, written as an object or as an array. -/
def onlyMember? (key : String) : Form -> Option Form
  | .object members =>
      match valuesOf? key members with
      | some [value] => some value
      | _ => none
  | .array [value] => some value
  | _ => none

def statusOfForm? (document : Form) : Option Status := do
  let task ← onlyMember? "task" document
  let status ← onlyMember? "status" task
  match status with
  | .string units => (resolveString units).map Status.ofWord
  | _ => none

inductive Reading where
  | noResponse
  | unusable
  | status (s : Status)
  deriving DecidableEq, Repr

def Reading.ofBody (body : String) : Reading :=
  if Text.isBlankText body then noResponse
  else
    match Form.read body.toList with
    | .error _ => unusable
    | .ok document =>
        match statusOfForm? document with
        | some s => status s
        | none => unusable

end Task
end AnalysisHarness
