import AnalysisHarness.Shell.Field
import AnalysisHarness.Shell.Format
import AnalysisHarness.Shell.Signal
import AnalysisHarness.Text.Search

/-!
# Commands of the shell itself

The commands that the shell knows without looking for a program: those that only give an exit code,
that print, that test, and that change the shell.
-/

namespace AnalysisHarness
namespace Shell

open Text

def isNumeral (text : String) : Bool := !text.isEmpty && text.toList.all Char.isDigit

def testNumber (text : String) : Except String Int :=
  match (String.ofList (trimChars text.toList)).toInt? with
  | some n => .ok n
  | none => .error ("Illegal number: " ++ text)

def comparison? : String -> Option (Int -> Int -> Bool)
  | "-eq" => some fun a b => a == b
  | "-ne" => some fun a b => a != b
  | "-lt" => some fun a b => decide (a < b)
  | "-le" => some fun a b => decide (a ≤ b)
  | "-gt" => some fun a b => decide (b < a)
  | "-ge" => some fun a b => decide (b ≤ a)
  | _ => none

def testOne (s : State) (op a : String) : Except String Bool :=
  let w := s.view
  match op with
  | "!" => .ok (a == "")
  | "-n" => .ok (a != "")
  | "-z" => .ok (a == "")
  | "-e" => .ok (w.exists? a)
  | "-d" => .ok (w.isDirectory a)
  | "-f" => .ok (w.exists? a && !w.isDirectory a)
  | "-r" => .ok (w.exists? a)
  | "-w" => .ok (w.exists? a)
  | "-x" => .ok (w.isDirectory a)
  | "-s" => .ok (match w.read a with | .ok b => !b.isEmpty | .error e => e == .isDirectory)
  | "-h" => .ok (isLink w a)
  | "-L" => .ok (isLink w a)
  | _ => .error (op ++ ": unexpected operator")
where
  isLink (w : Workspace) (path : String) : Bool :=
    match w.locateFrom w.current false path with
    | .ok (.found id) =>
        match w.node? id with
        | some (.link _) => true
        | _ => false
    | _ => false

def testTwo (a op b : String) : Except String Bool :=
  match op, comparison? op with
  | "=", _ => .ok (a == b)
  | "!=", _ => .ok (a != b)
  | _, some compare => do
      let a ← testNumber a
      let b ← testNumber b
      pure (compare a b)
  | _, none => .error (a ++ ": unexpected operator")

def test (s : State) : Nat -> List String -> Except String Bool
  | 0, _ => .ok false
  | fuel + 1, arguments =>
      match arguments with
      | [] => .ok false
      | [a] => .ok (a != "")
      | [op, a] => testOne s op a
      | ["!", op, a] => (test s fuel [op, a]).map (!·)
      | ["(", a, ")"] => test s fuel [a]
      | [a, op, b] => testTwo a op b
      | _ =>
          match splitFirst ["-o"] arguments, splitFirst ["-a"] arguments with
          | some (left, right), _ => do
              let a ← test s fuel left
              let b ← test s fuel right
              pure (a || b)
          | none, some (left, right) => do
              let a ← test s fuel left
              let b ← test s fuel right
              pure (a && b)
          | none, none =>
              match arguments with
              | "!" :: rest => (test s fuel rest).map (!·)
              | a :: _ => .error (a ++ ": unexpected operator")
              | [] => .ok false

def runTest (name : String) (line : Nat) (arguments : List String) (s : State) : State :=
  match test s (2 * arguments.length + 2) arguments with
  | .ok b => s.withStatus (if b then 0 else 1)
  | .error reason => (s.complain line (name ++ ": " ++ reason)).withStatus 2

def runBracket (line : Nat) (arguments : List String) (s : State) : State :=
  if arguments.getLast? = some "]" then runTest "[" line arguments.dropLast s
  else (s.complain line "[: missing ]").withStatus 2

def signalUsage : String :=
  "Usage: kill [-s sigspec | -signum | -sigspec] [pid | job]... or\nkill -l [exitstatus]"

def readSignal (arguments : List String) : Except String (String × List String) :=
  match arguments with
  | "-s" :: name :: rest =>
      match Signal.ofWord? name with
      | some signal => .ok (signal, rest)
      | none => .error ("invalid signal number or name: " ++ name)
  | "-s" :: [] => .error "No arg for -s option"
  | "--" :: rest => .ok ("TERM", rest)
  | a :: rest =>
      match a.toList with
      | '-' :: c :: word =>
          match Signal.ofWord? (String.ofList (c :: word)) with
          | some signal => .ok (signal, rest)
          | none =>
              if c = 's' then .error ("invalid signal number or name: " ++ String.ofList word)
              else .error ("Illegal option -" ++ String.singleton c)
      | _ => .ok ("TERM", a :: rest)
  | [] => .ok ("TERM", [])

/-- What a signal does to the shell: what it has been told to do, or else the usual. -/
def receive (signal : String) (s : State) : State :=
  match s.traps.find? signal with
  | some action => if action = "" ∨ signal = "EXIT" then s else { s with due := s.due ++ [action] }
  | none => if Signal.harmless.contains signal then s else { s with flow := .killed }

/-- Sends a signal to processes, of which the shell itself is the only one. -/
def sendTo (line : Nat) (signal : String) : List String -> State -> State
  | [], s => s
  | a :: rest, s =>
      if !isNumeral a then (s.complain line ("kill: Illegal number: " ++ a)).withStatus 2
      else if a = ownNumber then
        let s := receive signal s
        if s.flow = .killed then s else sendTo line signal rest s
      else
        sendTo line signal rest ((s.complain line "kill: No such process").withStatus 1)

def sendSignal (s : State) (line : Nat) (arguments : List String) : State :=
  match readSignal arguments with
  | .error reason => (s.complain line ("kill: " ++ reason)).withStatus 2
  | .ok (signal, targets) =>
      if targets.isEmpty then (s.complain line ("kill: " ++ signalUsage)).withStatus 2
      else sendTo line signal targets (s.withStatus 0)

def maxNumber : Nat := 2 ^ 31 - 1

def number? (text : String) : Option Nat :=
  let value := Decimal.digitsValue text.toList
  if isNumeral text ∧ value ≤ maxNumber then some value else none

def leaveWith (name : String) (flow : Flow) (line : Nat) (arguments : List String)
    (s : State) : State :=
  match arguments with
  | [] => { s with flow := flow }
  | a :: _ =>
      match number? a with
      | some n => { s with flow := flow, status := n % 256 }
      | none => s.abort line (name ++ ": Illegal number: " ++ a)

/-- Leaves loops, if there are any: one, or as many as an argument says. -/
def leaveLoops (name : String) (flow : Nat -> Flow) (line : Nat) (arguments : List String)
    (s : State) : State :=
  let wanted := arguments.head?.getD "1"
  match number? wanted with
  | some (n + 1) =>
      if s.loops = 0 then s.withStatus 0
      else { s with flow := flow (Nat.min n (s.loops - 1)), status := 0 }
  | _ => s.abort line (name ++ ": Illegal number: " ++ wanted)

def changeDirectory (s : State) (line : Nat) (arguments : List String) : State :=
  let given := arguments.head?.getD (s.value "HOME")
  let target := if given = "" then "." else given
  let refuse : State := (s.complain line ("cd: can't cd to " ++ target)).withStatus 2
  match s.view.find target with
  | .ok id =>
      if s.view.isDirectoryNode id then { s with directory := id, status := 0 } else refuse
  | .error _ => refuse

def splitAssignment (text : String) : String × Option String :=
  match splitFirst ['='] text.toList with
  | some (name, value) => (String.ofList name, some (String.ofList value))
  | none => (text, none)

def exportAll (arguments : List String) (s : State) : State :=
  arguments.foldl
    (fun s text =>
      let (name, value) := splitAssignment text
      let s :=
        match value with
        | some value => s.assign name value
        | none => s
      s.exporting [name])
    s

def assignAll (arguments : List String) (s : State) : State :=
  arguments.foldl
    (fun s text =>
      match splitAssignment text with
      | (name, some value) => s.assign name value
      | (_, none) => s)
    s

def settingLetters : List Char :=
  ['a', 'b', 'C', 'e', 'E', 'f', 'h', 'I', 'i', 'm', 'n', 'o', 'u', 'v', 'V', 'x']

def runSet (line : Nat) : List String -> State -> State
  | [], s => s.withStatus 0
  | "--" :: rest, s => { s with parameters := rest, status := 0 }
  | a :: rest, s =>
      let switch (letters : List Char) (on : Bool) : State :=
        if letters.contains 'e' then { s with isStrict := on } else s
      match a.toList with
      | '-' :: letters =>
          match letters.find? fun c => !settingLetters.contains c with
          | some c => s.abort line ("set: Illegal option -" ++ String.singleton c)
          | none => runSet line rest (switch letters true)
      | '+' :: letters => runSet line rest (switch letters false)
      | _ => { s with parameters := a :: rest, status := 0 }

def withNames (command : String) (line : Nat) (arguments : List String) (act : State -> State)
    (s : State) : State :=
  let options := arguments.takeWhile fun a => a.toList.head? == some '-'
  let names := (arguments.drop options.length).map fun a => (splitAssignment a).1
  match names.find? fun name => !isName name with
  | some name => s.abort line (command ++ ": " ++ name ++ ": bad variable name")
  | none => (act s).withStatus 0

/-- The words of a line, the last of which takes all that is left. -/
def splitLine : List String -> List Char -> List (String × List Char)
  | [], _ => []
  | [name], cs => [(name, trimChars cs)]
  | name :: names, cs =>
      let cs := cs.dropWhile isBlank
      (name, cs.takeWhile (!isBlank ·)) :: splitLine names (cs.dropWhile (!isBlank ·))

def readInto (arguments : List String) (s : State) : State :=
  let names := arguments.filter fun a => a.toList.head? != some '-'
  match s.readLine? 0 with
  | none => (names.foldl (fun s name => s.assign name "") s).withStatus 1
  | some (bytes, s) =>
      let line := (decodeLenient bytes).toList
      let complete := line.getLast? == some '\n'
      let values := splitLine names (dropEndWhile (· == '\n') line)
      let s := values.foldl (fun s v => s.assign v.1 (String.ofList v.2)) s
      s.withStatus (if complete then 0 else 1)

def shiftBy (line : Nat) (arguments : List String) (s : State) : State :=
  let n := (arguments.head?.bind String.toNat?).getD 1
  if s.parameters.length < n then s.abort line "shift: can't shift that many"
  else { s with parameters := s.parameters.drop n, status := 0 }

def quoted (text : String) : String :=
  "'" ++ String.intercalate "'\"'\"'" ((segments '\'' text.toList).map String.ofList) ++ "'"

def shownTraps (s : State) : String :=
  String.join (Signal.names.filterMap fun name =>
    (s.traps.find? name).map fun action => "trap -- " ++ quoted action ++ " " ++ name ++ "\n")

def runTrap (arguments : List String) (s : State) : State :=
  let arguments := if arguments.head? = some "--" then arguments.drop 1 else arguments
  let set (action : Option String) (words : List String) : State :=
    words.foldl
      (fun s word =>
        match Signal.ofWord? word, action with
        | none, _ => (s.say 2 ("trap: " ++ word ++ ": bad trap\n")).withStatus 1
        | some name, some action => { s with traps := Keyed.put name action s.traps }
        | some name, none => { s with traps := s.traps.filter fun t => t.1 != name })
      (s.withStatus 0)
  match arguments with
  | [] => (s.say 1 (shownTraps s)).withStatus 0
  | [word] => set none [word]
  | "-" :: words => set none words
  | action :: words => set (some action) words

def runLocal (line : Nat) (arguments : List String) (s : State) : State :=
  match s.locals? with
  | none => s.abort line "local: not in a function"
  | some names =>
      let s := { s with locals? := some (arguments.map (fun a => (splitAssignment a).1) ++ names) }
      (assignAll arguments s).withStatus 0

def runPrintf (line : Nat) (arguments : List String) (s : State) : State :=
  let arguments := if arguments.head? = some "--" then arguments.drop 1 else arguments
  match arguments with
  | [] => (s.complain line "printf: usage: printf format [arg ...]").withStatus 2
  | format :: rest =>
      match format.toList with
      | '-' :: c :: _ =>
          (s.complain line ("printf: Illegal option -" ++ String.singleton c)).withStatus 2
      | cs =>
          let p := printf cs (rest.map String.toList)
          let s := p.complaints.foldl (fun s c => s.complain line ("printf: " ++ c)) s
          (s.emit 1 p.bytes).withStatus
            (if p.isRefused then 2 else if p.complaints.isEmpty then 0 else 1)

def runBuiltin? (name : String) (arguments : List String) (line : Nat) (s : State) :
    Option State :=
  let done (s : State) : Option State := some (s.withStatus 0)
  match name with
  | ":" => done s
  | "true" => done s
  | "false" => some (s.withStatus 1)
  | "echo" => done (s.emit 1 (echo (arguments.map String.toList)))
  | "printf" => some (runPrintf line arguments s)
  | "exit" => some (leaveWith "exit" .exited line arguments s)
  | "return" => some (leaveWith "return" .returned line arguments s)
  | "break" => some (leaveLoops "break" .broken line arguments s)
  | "continue" => some (leaveLoops "continue" .continued line arguments s)
  | "cd" => some (changeDirectory s line arguments)
  | "pwd" => done (s.say 1 (s.currentPath ++ "\n"))
  | "kill" => some (sendSignal s line arguments)
  | "test" => some (runTest "test" line arguments s)
  | "[" => some (runBracket line arguments s)
  | "export" => some (withNames "export" line arguments (exportAll arguments) s)
  | "readonly" => some (withNames "readonly" line arguments (assignAll arguments) s)
  | "local" => some (runLocal line arguments s)
  | "set" => some (runSet line arguments s)
  | "shift" => some (shiftBy line arguments s)
  | "read" => some (readInto arguments s)
  | "trap" => some (runTrap arguments s)
  | "wait" => done s
  | "umask" => done (if arguments.isEmpty then s.say 1 "0022\n" else s)
  | "alias" => done s
  | "hash" => done s
  | "jobs" => done s
  | "ulimit" => done s
  | "unset" =>
      let drop (s : State) : State :=
        { s with
          bindings := s.bindings.filter fun v => !arguments.contains v.1
          bodies := s.bodies.filter fun b => !(arguments.contains "-f" && arguments.contains b.1) }
      some (withNames "unset" line arguments drop s)
  | _ => none

end Shell
end AnalysisHarness
