import AnalysisHarness.Shell.Token

/-!
# Shell programs

Commands with redirections, joined by pipes, by conditions and by separators, and the compound
commands that group, choose and repeat others.
-/

namespace AnalysisHarness
namespace Shell

inductive Target where
  | read (file : Word)
  | write (file : Word)
  | append (file : Word)
  | same (descriptor : Word)
  | text (content : Word)
  deriving Repr

structure Redirection where
  descriptor : Nat
  target : Target
  deriving Repr

inductive Program where
  | empty
  | simple (line : Nat) (words : List Word) (redirections : List Redirection)
  | redirected (body : Program) (redirections : List Redirection)
  | subshell (body : Program)
  | negated (body : Program)
  | pipe (first second : Program)
  | both (first second : Program)
  | either (first second : Program)
  | sequence (first second : Program)
  | choose (condition yes no : Program)
  | loop (untilTrue : Bool) (condition body : Program)
  | forEach (name : String) (words : List Word) (body : Program)
  | select (subject : Word) (branches : List (List Word × Program))
  | define (name : String) (body : Program)
  deriving Repr, Inhabited

/-- Why tokens are no program, and in which line that shows if not at the end. -/
structure ParseError where
  line? : Option Nat
  reason : String

def bareText? : Word -> Option String
  | [.text false s] => some (String.ofList s)
  | _ => none

def reserved : List String :=
  ["if", "then", "elif", "else", "fi", "while", "until", "for", "in", "do", "done", "\x7b", "\x7d",
    "!", "case", "esac"]

/-- The commands of the shell that change it, which no body can be named after. -/
def specialNames : List String :=
  [":", ".", "exit", "export", "set", "unset", "eval", "exec", "return", "shift", "trap",
    "readonly", "break", "continue"]

def redirectionOperators : List String := [">", ">>", "<", ">&", "<&", ">|", "<>"]

def inQuotes (s : String) : String := "\"" ++ s ++ "\""

def Token.shown : Token -> String
  | .word w =>
      match bareText? w with
      | some s => if reserved.contains s then inQuotes s else "word"
      | none => "word"
  | .operator s => if redirectionOperators.contains s then "redirection" else inQuotes s
  | .descriptor _ => "redirection"
  | .hereText _ => "redirection"
  | .lineBreak => "newline"
  | .bad reason => reason

def unexpected : List Placed -> ParseError
  | [] => ⟨none, "end of file unexpected"⟩
  | ⟨.bad reason, line⟩ :: _ => ⟨some line, reason⟩
  | ⟨t, line⟩ :: _ => ⟨some line, t.shown ++ " unexpected"⟩

def refusedAt (ts : List Placed) (reason : String) : ParseError :=
  ⟨ts.head?.map Placed.line, reason⟩

def closing : List String := ["then", "elif", "else", "fi", "do", "done", "\x7d", "esac"]

def keyword? : List Placed -> Option (String × List Placed)
  | ⟨.word w, _⟩ :: rest =>
      match bareText? w with
      | some s => if reserved.contains s then some (s, rest) else none
      | none => none
  | _ => none

def operator? : List Placed -> Option (String × List Placed)
  | ⟨.operator s, _⟩ :: rest => some (s, rest)
  | _ => none

def skipBreaks : List Placed -> List Placed
  | ⟨.lineBreak, _⟩ :: rest => skipBreaks rest
  | ts => ts

def unexpectedFor (wanted : String) (ts : List Placed) : ParseError :=
  let e := unexpected ts
  match ts with
  | ⟨.bad _, _⟩ :: _ => e
  | _ => { e with reason := e.reason ++ " (expecting " ++ wanted ++ ")" }

def expectKeyword (s : String) (ts : List Placed) : Except ParseError (List Placed) :=
  match keyword? ts with
  | some (k, rest) => if k = s then .ok rest else .error (unexpectedFor (inQuotes s) ts)
  | none => .error (unexpectedFor (inQuotes s) ts)

def readRedirection? (ts : List Placed) :
    Except ParseError (Option (Redirection × List Placed)) :=
  let (given, after) :=
    match ts with
    | ⟨.descriptor n, _⟩ :: rest => (some n, rest)
    | _ => (none, ts)
  match after with
  | ⟨.hereText w, _⟩ :: rest => .ok (some (⟨given.getD 0, .text w⟩, rest))
  | ⟨.operator op, _⟩ :: rest =>
      let target (make : Word -> Target) (usual : Nat) :
          Except ParseError (Option (Redirection × List Placed)) :=
        match rest with
        | ⟨.word w, _⟩ :: rest => .ok (some (⟨given.getD usual, make w⟩, rest))
        | _ => .error (unexpected rest)
      if op = ">" ∨ op = ">|" then target .write 1
      else if op = ">>" then target .append 1
      else if op = "<" ∨ op = "<>" then target .read 0
      else if op = ">&" then target .same 1
      else if op = "<&" then target .same 0
      else .ok none
  | _ => .ok none

def readRedirections : Nat -> List Placed -> Except ParseError (List Redirection × List Placed)
  | 0, ts => .ok ([], ts)
  | fuel + 1, ts => do
      match (← readRedirection? ts) with
      | none => pure ([], ts)
      | some (r, rest) =>
          let (rs, rest) ← readRedirections fuel rest
          pure (r :: rs, rest)

def readSimple : Nat -> List Placed ->
    Except ParseError (List Word × List Redirection × List Placed)
  | 0, ts => .ok ([], [], ts)
  | fuel + 1, ts => do
      match (← readRedirection? ts) with
      | some (r, rest) =>
          let (ws, rs, rest) ← readSimple fuel rest
          pure (ws, r :: rs, rest)
      | none =>
          match ts with
          | ⟨.word w, _⟩ :: rest => do
              let (ws, rs, rest) ← readSimple fuel rest
              pure (w :: ws, rs, rest)
          | _ => pure ([], [], ts)

def readWords : List Placed -> Except ParseError (List Word × List Placed)
  | ⟨.word w, _⟩ :: rest => do
      let (ws, rest) ← readWords rest
      pure (w :: ws, rest)
  | ⟨.operator ";", _⟩ :: rest => .ok ([], rest)
  | ⟨.lineBreak, _⟩ :: rest => .ok ([], rest)
  | ts => .error (unexpected ts)

def isName (s : String) : Bool :=
  match s.toList with
  | c :: rest => isNameChar c && !c.isDigit && rest.all isNameChar
  | [] => false

def readLoopHead (ts : List Placed) :
    Except ParseError (String × Option (List Word) × List Placed) :=
  let refuse := refusedAt ts "Bad for loop variable"
  match ts with
  | ⟨.word w, _⟩ :: rest =>
      match bareText? w with
      | none => .error refuse
      | some name =>
          if !isName name then .error refuse
          else
            let rest := skipBreaks rest
            match keyword? rest, operator? rest with
            | some ("in", rest), _ =>
                (readWords rest).map fun (ws, rest) => (name, some ws, rest)
            | _, some (";", rest) => .ok (name, none, rest)
            | _, _ => .ok (name, none, rest)
  | _ => .error refuse

def readPatterns : List Placed -> Except ParseError (List Word × List Placed)
  | ⟨.word w, _⟩ :: ⟨.operator ")", _⟩ :: rest => .ok ([w], rest)
  | ⟨.word w, _⟩ :: ⟨.operator "|", _⟩ :: rest => do
      let (ws, rest) ← readPatterns rest
      pure (w :: ws, rest)
  | ts => .error (unexpectedFor (inQuotes ")") (ts.drop 1))

def isAssignmentWord (w : Word) : Bool :=
  match w with
  | .text false cs :: _ =>
      cs.contains '=' && isName (String.ofList (cs.takeWhile (· != '=')))
  | _ => false

def readDefinition? : List Placed -> Except ParseError (Option (String × List Placed))
  | ⟨.word w, line⟩ :: ⟨.operator "(", _⟩ :: rest =>
      if isAssignmentWord w then .ok none
      else
        match operator? rest with
        | some (")", rest) =>
            let name := (bareText? w).getD ""
            if isName name && !specialNames.contains name then .ok (some (name, rest))
            else .error ⟨some line, "Bad function name"⟩
        | _ => .error (unexpectedFor (inQuotes ")") rest)
  | _ => .ok none

/-- Whether a list of commands ends here; a list over several lines has no line break left here. -/
def endsList (ts : List Placed) : Bool :=
  match ts with
  | [] => true
  | ⟨.lineBreak, _⟩ :: _ => true
  | ⟨.operator s, _⟩ :: _ => s == ")" || s == ";;"
  | _ =>
      match keyword? ts with
      | some (k, _) => closing.contains k
      | none => false

mutual

def readCommand : Nat -> List Placed -> Except ParseError (Program × List Placed)
  | 0, ts => .error (unexpected ts)
  | fuel + 1, ts =>
      match operator? ts with
      | some ("(", rest) => do
          let (body, rest) ← readSome fuel rest
          match operator? rest with
          | some (")", rest) => do
              let (rs, rest) ← readRedirections fuel rest
              pure (.redirected (.subshell body) rs, rest)
          | _ => .error (unexpectedFor (inQuotes ")") rest)
      | some (op, _) =>
          if redirectionOperators.contains op then readPlain fuel ts else .error (unexpected ts)
      | none =>
          match keyword? ts with
          | some ("\x7b", rest) => do
              let (body, rest) ← readSome fuel rest
              let rest ← expectKeyword "\x7d" rest
              let (rs, rest) ← readRedirections fuel rest
              pure (.redirected body rs, rest)
          | some ("if", rest) => do
              let (body, rest) ← readChoice fuel rest
              let (rs, rest) ← readRedirections fuel rest
              pure (.redirected body rs, rest)
          | some ("while", rest) => readLoop fuel false rest
          | some ("until", rest) => readLoop fuel true rest
          | some ("for", rest) => do
              let (name, ws, rest) ← readLoopHead rest
              let rest ← expectKeyword "do" (skipBreaks rest)
              let (body, rest) ← readSome fuel rest
              let rest ← expectKeyword "done" rest
              let (rs, rest) ← readRedirections fuel rest
              pure (.redirected (.forEach name (ws.getD [[.value true "@"]]) body) rs, rest)
          | some ("case", ⟨.word w, _⟩ :: rest) => do
              let rest ← expectKeyword "in" (skipBreaks rest)
              let (branches, rest) ← readBranches fuel rest
              let (rs, rest) ← readRedirections fuel rest
              pure (.redirected (.select w branches) rs, rest)
          | some ("case", rest) => .error (unexpectedFor "word" rest)
          | some (_, _) => .error (unexpected ts)
          | none => do
              match (← readDefinition? ts) with
              | some (name, rest) => do
                  let (body, rest) ← readCommand fuel (skipBreaks rest)
                  pure (.define name body, rest)
              | none =>
                  match ts with
                  | ⟨.word _, _⟩ :: _ => readPlain fuel ts
                  | ⟨.descriptor _, _⟩ :: _ => readPlain fuel ts
                  | ⟨.hereText _, _⟩ :: _ => readPlain fuel ts
                  | _ => .error (unexpected ts)

def readBranches : Nat -> List Placed ->
    Except ParseError (List (List Word × Program) × List Placed)
  | 0, ts => .error (unexpected ts)
  | fuel + 1, ts =>
      let ts := skipBreaks ts
      match keyword? ts with
      | some ("esac", rest) => .ok ([], rest)
      | _ => do
          let ts :=
            match operator? ts with
            | some ("(", rest) => rest
            | _ => ts
          let (patterns, rest) ← readPatterns ts
          let (body, rest) ← readList fuel true rest
          match operator? rest with
          | some (";;", rest) => do
              let (branches, rest) ← readBranches fuel rest
              pure ((patterns, body) :: branches, rest)
          | _ =>
              match keyword? rest with
              | some ("esac", rest) => pure ([(patterns, body)], rest)
              | _ => .error (unexpectedFor (inQuotes ";;") rest)

def readPlain : Nat -> List Placed -> Except ParseError (Program × List Placed)
  | 0, ts => .error (unexpected ts)
  | _ + 1, ts => do
      let (ws, rs, rest) ← readSimple (ts.length + 1) ts
      pure (.simple ((ts.head?.map Placed.line).getD 1) ws rs, rest)

def readChoice : Nat -> List Placed -> Except ParseError (Program × List Placed)
  | 0, ts => .error (unexpected ts)
  | fuel + 1, ts => do
      let (condition, rest) ← readSome fuel ts
      let rest ← expectKeyword "then" rest
      let (yes, rest) ← readSome fuel rest
      match keyword? rest with
      | some ("elif", rest) => do
          let (no, rest) ← readChoice fuel rest
          pure (.choose condition yes no, rest)
      | some ("else", rest) => do
          let (no, rest) ← readSome fuel rest
          let rest ← expectKeyword "fi" rest
          pure (.choose condition yes no, rest)
      | some ("fi", rest) => pure (.choose condition yes .empty, rest)
      | _ => .error (unexpectedFor (inQuotes "fi") rest)

def readLoop : Nat -> Bool -> List Placed -> Except ParseError (Program × List Placed)
  | 0, _, ts => .error (unexpected ts)
  | fuel + 1, untilTrue, ts => do
      let (condition, rest) ← readSome fuel ts
      let rest ← expectKeyword "do" rest
      let (body, rest) ← readSome fuel rest
      let rest ← expectKeyword "done" rest
      let (rs, rest) ← readRedirections fuel rest
      pure (.redirected (.loop untilTrue condition body) rs, rest)

def readPipeline : Nat -> List Placed -> Except ParseError (Program × List Placed)
  | 0, ts => .error (unexpected ts)
  | fuel + 1, ts =>
      match keyword? ts with
      | some ("!", rest) => do
          let (body, rest) ← readPipeline fuel rest
          pure (.negated body, rest)
      | _ => do
          let (first, rest) ← readCommand fuel ts
          match operator? rest with
          | some ("|", rest) => do
              let (second, rest) ← readPipeline fuel (skipBreaks rest)
              pure (.pipe first second, rest)
          | _ => pure (first, rest)

/-- Reads pipelines joined by conditions, after a program that comes before them. -/
def readConditions : Nat -> Program -> List Placed -> Except ParseError (Program × List Placed)
  | 0, p, ts => .ok (p, ts)
  | fuel + 1, p, ts =>
      match operator? ts with
      | some ("&&", rest) => do
          let (next, rest) ← readPipeline fuel (skipBreaks rest)
          readConditions fuel (.both p next) rest
      | some ("||", rest) => do
          let (next, rest) ← readPipeline fuel (skipBreaks rest)
          readConditions fuel (.either p next) rest
      | _ => .ok (p, ts)

def readSome : Nat -> List Placed -> Except ParseError (Program × List Placed)
  | 0, ts => .error (unexpected ts)
  | fuel + 1, ts =>
      match skipBreaks ts with
      | [] => .ok (.empty, [])
      | ts => if endsList ts then .error (unexpected ts) else readList fuel true ts

/-- Reads commands with separators between them; over several lines, or to the end of one. -/
def readList : Nat -> Bool -> List Placed -> Except ParseError (Program × List Placed)
  | 0, _, ts => .error (unexpected ts)
  | fuel + 1, several, ts =>
      let ts := if several then skipBreaks ts else ts
      if endsList ts then .ok (.empty, ts)
      else do
        let (first, rest) ← readPipeline fuel ts
        let (first, rest) ← readConditions fuel first rest
        match rest with
        | ⟨.operator ";", _⟩ :: rest => do
            let (next, rest) ← readList fuel several rest
            pure (.sequence first next, rest)
        | ⟨.operator "&", _⟩ :: rest => do
            let (next, rest) ← readList fuel several rest
            pure (.sequence (.subshell first) next, rest)
        | ⟨.lineBreak, _⟩ :: after =>
            if several then do
              let (next, rest) ← readList fuel several after
              pure (.sequence first next, rest)
            else pure (first, rest)
        | _ => pure (first, rest)

end

def readLine (ts : List Placed) : Except ParseError (Program × List Placed) := do
  match ts with
  | ⟨.lineBreak, _⟩ :: rest => pure (.empty, rest)
  | _ =>
      let (p, rest) ← readList (4 * ts.length + 8) false ts
      match rest with
      | [] => pure (p, [])
      | ⟨.lineBreak, _⟩ :: rest => pure (p, rest)
      | _ => .error (unexpected rest)

end Shell
end AnalysisHarness
