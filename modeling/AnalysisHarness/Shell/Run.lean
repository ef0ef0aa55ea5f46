import AnalysisHarness.Session
import AnalysisHarness.Shell.Frame
import AnalysisHarness.Shell.Naming

/-!
# Running programs

A program changes the state of the shell command by command. A shell inside another one gets a
copy of the state; only what it does to files outlasts it. Every step is counted against a fuel,
so that a loop that does not end is cut off.
-/

namespace AnalysisHarness
namespace Shell

open Text

mutual

/-- The fields of a word, with variables and commands replaced. -/
def expand : Nat -> State -> Word -> Fields × State
  | 0, s, _ => (.none, s)
  | fuel + 1, s, w =>
      w.foldl
        (fun (fields, s) part =>
          match part with
          | .text quoted cs =>
              if cs.isEmpty && !quoted then (fields, s) else (fields.add quoted cs, s)
          | .value true "@" => (fields.addEach s.parameters, s)
          | .value quoted name => (fields.addValue quoted (valueOf s name).toList, s)
          | .modified quoted name operation word =>
              let (cs, s) := modify fuel s name operation word
              (fields.addValue quoted cs, s)
          | .output quoted command =>
              let (cs, s) := capture fuel s command
              (fields.addValue quoted cs, s)
          | .number quoted expression =>
              let (text, s) := expandText fuel s ((quotedWord expression).toOption.getD [])
              match calculate s text with
              | .ok (n, s) => (fields.addValue quoted (toString n).toList, s)
              | .error fault => (fields, s.abort 1 (fault.message text)))
        (.none, s)

def modify : Nat -> State -> String -> String -> List Char -> List Char × State
  | 0, s, _, _, _ => ([], s)
  | fuel + 1, s, name, operation, word =>
      let value := valueOf? s name
      let cs := (value.getD "").toList
      let w := ((readWord (word.length + 1) [] (escapeBlanks word)).map Prod.fst).toOption.getD []
      let given : Bool :=
        if operation.toList.head? = some ':' then !cs.isEmpty else value.isSome
      let usual (s : State) : List Char × State :=
        let (text, s) := expandText fuel s w
        (text.toList, s)
      match operation with
      | "" => ([], s.abort 1 "Bad substitution")
      | "length" => ((toString cs.length).toList, s)
      | ":-" => if given then (cs, s) else usual s
      | "-" => if given then (cs, s) else usual s
      | ":+" => if given then usual s else ([], s)
      | "+" => if given then usual s else ([], s)
      | ":=" => if given then (cs, s) else assignUsual fuel s name w
      | "=" => if given then (cs, s) else assignUsual fuel s name w
      | ":?" => if given then (cs, s) else refuseUnset fuel s name operation w
      | "?" => if given then (cs, s) else refuseUnset fuel s name operation w
      | _ =>
          let (fields, s) := expand fuel s w
          (trimmed operation fields.toList.flatten cs, s)
where
  escapeBlanks : List Char -> List Char
    | '\\' :: c :: rest => '\\' :: c :: escapeBlanks rest
    | c :: rest => if endsWord c then '\\' :: c :: escapeBlanks rest else c :: escapeBlanks rest
    | [] => []

def assignUsual : Nat -> State -> String -> Word -> List Char × State
  | 0, s, _, _ => ([], s)
  | fuel + 1, s, name, w =>
      let (text, s) := expandText fuel s w
      (text.toList, s.assign name text)

def refuseUnset : Nat -> State -> String -> String -> Word -> List Char × State
  | 0, s, _, _, _ => ([], s)
  | fuel + 1, s, name, operation, w =>
      let (text, s) := expandText fuel s w
      let usual :=
        if operation = ":?" then "parameter not set or null" else "parameter not set"
      ([], s.abort 1 (name ++ ": " ++ (if w.isEmpty then usual else text)))

/-- The output of a command, without line feeds at its end. -/
def capture : Nat -> State -> List Char -> List Char × State
  | 0, s, _ => ([], s)
  | fuel + 1, s, command =>
      let (files, id) := s.files.addNode (.file [])
      let (inner, handle) := { s with files := files }.addOpen ⟨id, 0, true⟩
      let inner := finish fuel (runText fuel "" command (enter (inner.redirect 1 handle)))
      let bytes := (inner.files.bytesOf id).toOption.getD []
      let s := leave s inner
      (dropEndWhile (· == '\n') (decodeLenient (bytes.filter (· != 0))).toList, s)

def expandAll : Nat -> State -> List Word -> List String × State
  | 0, s, _ => ([], s)
  | fuel + 1, s, ws =>
      ws.foldl
        (fun (texts, s) w =>
          let w := if s.parameters.isEmpty && onlyParameters w then [] else w
          let (fields, s) := expand fuel s (tildeExpanded s w)
          (texts ++ fields.toList.flatMap (expandGlob s), s))
        ([], s)
where
  onlyParameters (w : Word) : Bool :=
    let all := Part.value true "@"
    w.contains all && w.all fun part => part == .text true [] || part == all
  tildeExpanded (s : State) (w : Word) : Word :=
    match w with
    | .text false ('~' :: rest) :: parts =>
        if rest.isEmpty ∨ rest.head? = some '/' then
          .text true (s.value "HOME").toList :: .text false rest :: parts
        else w
    | _ => w

def expandText : Nat -> State -> Word -> String × State
  | 0, s, _ => ("", s)
  | fuel + 1, s, w =>
      let (fields, s) := expand fuel s (w.map quotedPart)
      (String.intercalate " " (fields.toList.map fieldText), s)
where
  quotedPart : Part -> Part
    | .value _ name => .value true name
    | .modified _ name operation word => .modified true name operation word
    | .output _ command => .output true command
    | .number _ expression => .number true expression
    | part => part

def redirectAll : Nat -> Nat -> List Redirection -> State -> Bool × State
  | 0, _, _, s => (true, s)
  | fuel + 1, line, rs, s =>
      rs.foldl
        (fun (ok, s) r =>
          if !ok then (ok, s)
          else
            let opening (reading appends : Bool) (w : Word) : Bool × State :=
              let (path, s) := expandText fuel s w
              let opened :=
                match outputNamed? path s with
                | some handle => (some handle, s)
                | none => openTarget line reading appends path s
              match opened with
              | (some handle, s) => (true, s.redirect r.descriptor handle)
              | (none, s) => (false, s)
            match r.target with
            | .read w => opening true false w
            | .write w => opening false false w
            | .append w => opening false true w
            | .text w =>
                let (text, s) := expandText fuel s w
                (true, openText r.descriptor text s)
            | .same w =>
                let (text, s) := expandText fuel s w
                if text = "-" then
                  (true, { s with descriptors :=
                    s.descriptors.filter fun d => d.1 != r.descriptor })
                else if !isDescriptor text then (false, s.abort line "Syntax error: Bad fd number")
                else
                  match s.handle? (Decimal.digitsValue text.toList) with
                  | some handle => (true, s.redirect r.descriptor handle)
                  | none =>
                      (false, (s.complain line (text ++ ": Bad file descriptor")).withStatus 2))
        (true, s)

def runChild : Nat -> List Char -> List String -> State -> State
  | 0, _, _, s => s
  | fuel + 1, text, parameters, s =>
      let inner := finish fuel (runText fuel "" text
        { enter s with
          bindings := s.environment
          parameters := parameters
          bodies := []
          isStrict := false
          isDeciding := false
          locals? := none
          status := 0 })
      let after := { leave s inner with flow := .next }
      if inner.flow = .killed then (after.say 2 "Killed\n").withStatus 137 else after

def finish : Nat -> State -> State
  | 0, s => s
  | fuel + 1, s =>
      match s.traps.find? "EXIT" with
      | none => s
      | some action =>
          if s.flow = .killed then s
          else
            let traps := s.traps.filter fun t => t.1 != "EXIT"
            let after := runText fuel "" action.toList { s with traps := traps, flow := .next }
            if after.flow = .next then { after with status := s.status } else after

/-- Runs what is due because signals have come. -/
def runDue : Nat -> State -> State
  | 0, s => s
  | fuel + 1, s =>
      s.due.foldl
        (fun s action =>
          if s.flow ≠ .next then s
          else
            let after := runText fuel "" action.toList s
            if after.flow = .next then { after with status := s.status } else after)
        { s with due := [] }

def runShell : Nat -> Nat -> List String -> State -> State
  | 0, _, _, s => s
  | fuel + 1, line, arguments, s =>
      match arguments with
      | "-c" :: command :: rest => runChild fuel command.toList (rest.drop 1) s
      | "-e" :: rest => runShell fuel line rest s
      | path :: rest =>
          match s.view.readText path with
          | .ok text => runChild fuel text.toList rest s
          | .error _ =>
              (s.say 2 ("sh: 0: cannot open " ++ path ++ ": No such file\n")).withStatus 2
      | [] =>
          let (bytes, s) := s.drain 0
          runChild fuel (decodeLenient bytes).toList [] s

def runSource : Nat -> Nat -> List String -> State -> State
  | 0, _, _, s => s
  | fuel + 1, line, arguments, s =>
      match arguments with
      | [] => s.withStatus 0
      | path :: _ =>
          match s.view.readText path with
          | .error _ => s.abort line (".: cannot open " ++ path ++ ": No such file")
          | .ok text =>
              let s := runText fuel (path ++ ": ") text.toList (s.withStatus 0)
              if s.flow = .returned then { s with flow := .next } else s

def runWords : Nat -> Nat -> List String -> State -> State
  | 0, _, _, s => s
  | fuel + 1, line, texts, s =>
      match texts with
      | [] => s
      | "eval" :: arguments =>
          runText fuel "eval: " (String.intercalate " " arguments).toList (s.withStatus 0)
      | "." :: arguments => runSource fuel line arguments s
      | "sh" :: arguments => runShell fuel line arguments s
      | "command" :: "-v" :: name :: _ => tellCall s name
      | "command" :: arguments => runWords fuel line arguments s
      | "type" :: names => forEachArgument tellKind names s
      | "which" :: names => forEachArgument tellPath names s
      | "exec" :: [] => s.withStatus 0
      | "exec" :: name :: arguments =>
          if kindOf s name = .unknown then { notFound s line "exec: " name with flow := .exited }
          else { runWords fuel line (name :: arguments) s with flow := .exited }
      | "env" :: "-i" :: arguments =>
          let after := runWords fuel line ("env" :: arguments) { s with exported := [] }
          { after with exported := s.exported }
      | "env" :: a :: arguments =>
          let (assignments, rest) := leadingAssignments (a :: arguments)
          let names := assignments.map fun a => (splitAssignment a).1
          giveBack names s (runWords fuel line (if rest.isEmpty then ["env"] else rest)
            (exportAll assignments s))
      | name :: arguments =>
          match s.bodies.find? (·.1 == name) with
          | some (_, body) =>
              let after := run fuel body
                { s with parameters := arguments, locals? := some [], loops := 0 }
              { giveBack (after.locals?.getD []) s after with
                parameters := s.parameters
                locals? := s.locals?
                loops := s.loops
                flow := if after.flow = .returned then .next else after.flow }
          | none =>
              match runBuiltin? name arguments line s with
              | some s => runDue fuel s
              | none => runProgram name line arguments s

def run : Nat -> Program -> State -> State
  | 0, _, s => s
  | fuel + 1, p, s =>
      match p with
      | .empty => s
      | .simple line words redirections => settle (runSimple fuel line words redirections s)
      | .redirected body redirections =>
          let (ok, inner) := redirectAll fuel 1 redirections s
          if !ok then { inner with descriptors := s.descriptors }
          else { run fuel body inner with descriptors := s.descriptors }
      | .subshell body => settle (leave s (finish fuel (run fuel body (enter s))))
      | .negated body =>
          let s := runDeciding fuel body s
          if s.flow = .next then s.withStatus (if s.status = 0 then 1 else 0) else s
      | .pipe first second =>
          let (files, id) := s.files.addNode (.file [])
          let (inner, writer) := { s with files := files }.addOpen ⟨id, 0, true⟩
          let (inner, reader) := inner.addOpen ⟨id, 0, false⟩
          let left := leave inner (finish fuel (run fuel first (enter (inner.redirect 1 writer))))
          if left.flow = .killed then { left with descriptors := s.descriptors }
          else
            let right :=
              leave left (finish fuel (run fuel second (enter (left.redirect 0 reader))))
            settle { right with descriptors := s.descriptors }
      | .both first second =>
          let s := runDeciding fuel first s
          if s.flow = .next && s.status == 0 then run fuel second s else s
      | .either first second =>
          let s := runDeciding fuel first s
          if s.flow = .next && s.status != 0 then run fuel second s else s
      | .sequence first second =>
          let s := run fuel first s
          if s.flow = .next then run fuel second s else s
      | .choose condition yes no =>
          let s := runDeciding fuel condition s
          if s.flow ≠ .next then s
          else if s.status = 0 then run fuel yes s
          else run fuel no (s.withStatus 0)
      | .loop untilTrue condition body => runLoop fuel untilTrue condition body (s.withStatus 0)
      | .forEach name words body =>
          let (texts, s) := expandAll fuel s words
          let (s, _) := texts.foldl
            (fun (s, goesOn) text =>
              if !goesOn then (s, false)
              else endRound (run fuel body ((startRound s).assign name text)))
            (s.withStatus 0, s.flow == .next)
          s
      | .select subject branches =>
          let (text, s) := expandText fuel s subject
          let branch := branches.find? fun branch =>
            branch.1.any fun w => standsFor (expand fuel s w).1.toList.flatten text.toList
          match branch with
          | some (_, body) => run fuel body (s.withStatus 0)
          | none => s.withStatus 0
      | .define name body =>
          { s with bodies := (name, body) :: s.bodies.filter (·.1 != name), status := 0 }

/-- Runs a loop. Its exit code is that of the last round. -/
def runLoop : Nat -> Bool -> Program -> Program -> State -> State
  | 0, _, _, _, s => s
  | fuel + 1, untilTrue, condition, body, s =>
      let decided := runDeciding fuel condition (startRound s)
      if decided.flow = .next ∧ (decided.status == 0) = untilTrue then
        { decided with loops := s.loops, status := s.status }
      else
        let (after, goesOn) :=
          endRound (if decided.flow = .next then run fuel body decided else decided)
        if goesOn then runLoop fuel untilTrue condition body after else after

/-- Runs a program whose failing decides something. -/
def runDeciding : Nat -> Program -> State -> State
  | 0, _, s => s
  | fuel + 1, p, s =>
      { run fuel p { s with isDeciding := true } with isDeciding := s.isDeciding }

def runSimple : Nat -> Nat -> List Word -> List Redirection -> State -> State
  | 0, _, _, _, s => s
  | fuel + 1, line, words, redirections, s =>
      let (assignments, words) := splitAssignments words
      let (texts, s) := expandAll fuel s words
      if s.flow ≠ .next then s
      else
        let before := s
        let (ok, s) := redirectAll fuel line redirections s
        let isQuiet := texts.isEmpty && !(assignments.any fun a => runsCommand a.2)
        let s :=
          assignments.foldl
            (fun s (name, w) =>
              let (text, s) := expandText fuel s w
              s.assign name text)
            s
        if s.flow ≠ .next then s
        else if !ok then
          let special := specialNames.contains (texts.head?.getD "")
          { s with
            descriptors := before.descriptors
            flow := if special then .exited else s.flow }
        else if texts.isEmpty then
          { s with
            descriptors := before.descriptors
            status := if isQuiet then 0 else s.status }
        else
          let names := assignments.map Prod.fst
          let after := giveBack names before (runWords fuel line texts (s.exporting names))
          let keeps := texts == ["exec"]
          { after with descriptors := if keeps then after.descriptors else before.descriptors }

/-- Runs the commands of a text, line by line, on behalf of a command perhaps. -/
def runText : Nat -> String -> List Char -> State -> State
  | 0, _, _, s => s
  | fuel + 1, behalf, text, s => runLines fuel behalf (text.count '\n' + 1) (tokens text) s

def runLines : Nat -> String -> Nat -> List Placed -> State -> State
  | 0, _, _, _, s => s
  | fuel + 1, behalf, lines, ts, s =>
      match ts with
      | [] => s
      | _ =>
          match readLine ts with
          | .error e => s.abort (e.line?.getD lines) (behalf ++ "Syntax error: " ++ e.reason)
          | .ok (p, rest) =>
              let s := run fuel p s
              if s.flow = .next then runLines fuel behalf lines rest s else s

end

/-- How many steps a command may take. -/
def stepLimit : Nat := 100000

/-- The state in which a command starts: nothing to read, and one open file for all output. -/
def State.start (environment : Keyed String) (directory log : NodeId) (files : Workspace) : State :=
  let input := (files.find "/dev/null").toOption.getD 0
  { files := files
    opened := [⟨input, 0, false⟩, ⟨log, 0, false⟩]
    descriptors := [(0, 0), (1, 1), (2, 1)]
    directory := directory
    bindings := environment
    exported := Keyed.keys environment
    parameters := []
    bodies := []
    isStrict := false
    isDeciding := false
    traps := []
    due := []
    locals? := none
    loops := 0
    status := 0
    flow := .next }

/-- Runs a command for a session. The exit code is negative if a signal ended the shell. -/
def call (environment : Keyed String) (c : ShellCall) (files : Workspace) :
    Except IoError Int × Workspace :=
  if c.command.toList.contains '\x00' then (.error .nulInCommand, files)
  else
    match files.find c.directory with
    | .error e => (.error e, files)
    | .ok directory =>
        if !files.isDirectoryNode directory then (.error .notDirectory, files)
        else
          let s := runText stepLimit "" c.command.toList
            (.start environment directory c.log files)
          let s := finish stepLimit s
          (.ok (if s.flow = .killed then -1 else s.status), s.files)

end Shell
end AnalysisHarness
