import AnalysisHarness.Shell.Builtin

/-!
# Around commands

What the state of the shell is before and after commands: with descriptors that lead somewhere
else, inside another shell, in a round of a loop, and with names that mean something else for a
while.
-/

namespace AnalysisHarness
namespace Shell

open Text

def openReason (reading : Bool) (e : IoError) : String :=
  if e = .notFound ∨ e = .notDirectory then
    if reading then "No such file" else "Directory nonexistent"
  else reasonOf e

def openTarget (line : Nat) (reading appends : Bool) (path : String) (s : State) :
    Option Nat × State :=
  if reading then
    match s.view.find path with
    | .ok id =>
        let (s, handle) := s.addOpen ⟨id, 0, false⟩
        (some handle, s)
    | .error e =>
        (none, (s.complain line ("cannot open " ++ path ++ ": " ++ openReason true e)).withStatus 2)
  else
    let opened := if appends then s.view.openFile path else s.view.create path
    match opened with
    | .ok (w, id) =>
        let (s, handle) := (s.withFiles w).addOpen ⟨id, 0, appends⟩
        (some handle, s)
    | .error e =>
        (none,
          (s.complain line ("cannot create " ++ path ++ ": " ++ openReason false e)).withStatus 2)

def outputNamed? (path : String) (s : State) : Option Nat :=
  if path = "/dev/stdout" then s.handle? 1
  else if path = "/dev/stderr" then s.handle? 2
  else none

def openText (descriptor : Nat) (text : String) (s : State) : State :=
  let (files, id) := s.files.addNode (.file (encode text))
  let (s, handle) := { s with files := files }.addOpen ⟨id, 0, false⟩
  s.redirect descriptor handle

def isDescriptor (text : String) : Bool := isNumeral text && text.length == 1

/-- The state in which a shell inside another one begins: of signals, it only ignores some. -/
def enter (s : State) : State :=
  { s with traps := s.traps.filter (fun t => t.2 == ""), loops := 0 }

/-- The state of a shell after one inside it: files and open files stay as that one left them. -/
def leave (outer inner : State) : State :=
  { outer with
    files := inner.files
    opened := inner.opened
    status := inner.status
    flow := if inner.flow = .killed then .killed else .next }

def endRound (s : State) : State × Bool :=
  let s := { s with loops := s.loops - 1 }
  match s.flow with
  | .next => (s, true)
  | .broken 0 => ({ s with flow := .next }, false)
  | .broken (n + 1) => ({ s with flow := .broken n }, false)
  | .continued 0 => ({ s with flow := .next }, true)
  | .continued (n + 1) => ({ s with flow := .continued n }, false)
  | _ => (s, false)

def startRound (s : State) : State := { s with loops := s.loops + 1 }

/-- The state after a command, which ends the shell if failures do. -/
def settle (s : State) : State :=
  if s.isStrict && !s.isDeciding && s.status != 0 && s.flow == .next then
    { s with flow := .exited }
  else s

/-- The state after commands that took names for themselves: the names mean what they did. -/
def giveBack (names : List String) (before after : State) : State :=
  let bindings := names.foldl
    (fun bindings name =>
      match before.bindings.find? name with
      | some value => Keyed.put name value bindings
      | none => bindings.filter fun v => v.1 != name)
    after.bindings
  { after with
    bindings := bindings
    exported := after.exported.filter fun n => !names.contains n || before.exported.contains n }

end Shell
end AnalysisHarness
