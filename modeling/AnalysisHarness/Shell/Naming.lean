import AnalysisHarness.Shell.Arithmetic
import AnalysisHarness.Shell.Filter
import AnalysisHarness.Shell.Builtin

/-!
# What names stand for

The name of a command stands for a body, for a command of the shell or for a program; in an
expression, a name stands for a number.
-/

namespace AnalysisHarness
namespace Shell

def notFound (s : State) (line : Nat) (behalf name : String) : State :=
  if name.toList.contains '/' && s.view.exists? name then
    (s.complain line (behalf ++ name ++ ": Permission denied")).withStatus 126
  else (s.complain line (behalf ++ name ++ ": not found")).withStatus 127

def runProgram (name : String) (line : Nat) (arguments : List String) (s : State) : State :=
  let s := s.withStatus 0
  match runUtility? name arguments s <|> runFilter? name arguments s with
  | some s => s
  | none => notFound s line "" name

def leadingAssignments (arguments : List String) : List String × List String :=
  let isAssignment (a : String) : Bool := (splitAssignment a).2.isSome
  (arguments.takeWhile isAssignment, arguments.dropWhile isAssignment)

inductive Kind where
  | keyword
  | body
  | builtin
  | program
  | unknown
  deriving DecidableEq, Repr

def isProgram (s : State) (name : String) : Bool :=
  (runUtility? name [] s).isSome || (runFilter? name [] s).isSome ||
    ["sh", "env", "echo", "printf", "true", "false", "pwd", "test", "[", "kill"].contains name

def kindOf (s : State) (name : String) : Kind :=
  if reserved.contains name then .keyword
  else if s.bodies.any (·.1 == name) then .body
  else if specialNames.contains name || name = "command" || (runBuiltin? name [] 1 s).isSome then
    .builtin
  else if isProgram s name then .program
  else .unknown

def programPath (name : String) : String := "/usr/bin/" ++ name

def tellCall (s : State) (name : String) : State :=
  match kindOf s name with
  | .unknown => s.withStatus 127
  | .program => (s.say 1 (programPath name ++ "\n")).withStatus 0
  | _ => (s.say 1 (name ++ "\n")).withStatus 0

def tellKind (s : State) (name : String) : State :=
  let tell (text : String) : State := s.say 1 (name ++ text ++ "\n")
  match kindOf s name with
  | .keyword => tell " is a shell keyword"
  | .body => tell " is a shell function"
  | .builtin =>
      if specialNames.contains name then tell " is a special shell builtin"
      else tell " is a shell builtin"
  | .program => tell (" is " ++ programPath name)
  | .unknown => (tell ": not found").withStatus 127

def tellPath (s : State) (name : String) : State :=
  if isProgram s name then s.say 1 (programPath name ++ "\n") else s.withStatus 1

def numberIn (s : State) (name : String) : Except Arithmetic.Fault Int :=
  match valueOf? s name with
  | none => .ok 0
  | some text =>
      match Arithmetic.numberOf? text with
      | some n => .ok n
      | none => .error (.illegalNumber text)

/-- The value of an expression, and the state in which variables have the numbers given to them. -/
def calculate (s : State) (text : String) : Except Arithmetic.Fault (Int × State) := do
  let expression ← Arithmetic.Expression.read text.toList
  let (n, assigned) ← expression.evaluate (numberIn s) []
  pure (n, assigned.foldr (fun (name, m) s => s.assign name (toString m)) s)

end Shell
end AnalysisHarness
