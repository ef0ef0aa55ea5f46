import AnalysisHarness.Text.Segments

/-!
# Paths

Paths are kept as they are written; nothing is normalized, so that they are shown as they were
given.
-/

namespace AnalysisHarness
namespace Path

def isAbsolute (path : String) : Bool := path.toList.head? == some '/'

/-- A path seen from another one. An absolute path does not change. -/
def join (base child : String) : String :=
  if isAbsolute child then child
  else if base = "" then child
  else if base.toList.getLast? = some '/' then base ++ child
  else base ++ "/" ++ child

/-- The part of a name after its last dot, if something stands before the dot. -/
def extension? (name : String) : Option String :=
  let reversed := name.toList.reverse
  match reversed.dropWhile (· != '.') with
  | [] => none
  | _ :: stem =>
      if stem.isEmpty ∨ name = ".." then none
      else some (String.ofList (reversed.takeWhile (· != '.')).reverse)

end Path
end AnalysisHarness
