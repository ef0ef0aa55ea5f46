import AnalysisHarness.Decimal.Literal
import AnalysisHarness.Shell.EditPattern
import AnalysisHarness.Text.Blank
import AnalysisHarness.Text.Segments

/-!
# Editing lines

A script is a list of rules, each with the lines that it is for. Every line goes through all rules
in turn, which change it, print it, put text around it or drop it.
-/

namespace AnalysisHarness
namespace Shell

open Text

structure Substitution where
  pattern : EditPattern
  replacement : List Char
  first : Nat
  everywhere : Bool
  prints : Bool
  ignoresCase : Bool

def Substitution.same (s : Substitution) (a b : Char) : Bool :=
  a == b || (s.ignoresCase && a.toLower == b.toLower)

def expandReplacement (matched : List Char) (groups : List (Nat × List Char)) :
    List Char -> List Char
  | '\\' :: c :: rest =>
      let text :=
        if c.isDigit then
          if c = '0' then matched
          else ((groups.find? (·.1 == c.toNat - 48)).map Prod.snd).getD []
        else if c = 'n' then ['\n']
        else if c = 't' then ['\t']
        else [c]
      text ++ expandReplacement matched groups rest
  | '&' :: rest => matched ++ expandReplacement matched groups rest
  | c :: rest => c :: expandReplacement matched groups rest
  | [] => []

/--
A line after a substitution, from a position on, and whether something was replaced. A match of
nothing just after another match does not count; `seen` is how many matches there were.
-/
def Substitution.apply (s : Substitution) :
    Nat -> Nat -> Nat -> Bool -> List Char -> List Char × Bool
  | 0, _, _, _, cs => (cs, false)
  | fuel + 1, position, seen, afterMatch, cs =>
      let skip (seen : Nat) : List Char × Bool :=
        match cs with
        | [] => ([], false)
        | c :: rest =>
            let (changed, found) := s.apply fuel (position + 1) seen false rest
            (c :: changed, found)
      match s.pattern.longestFrom s.same position cs with
      | none => skip seen
      | some place =>
          let size := place.position - position
          if size = 0 && afterMatch then skip seen
          else
            let counts := if s.everywhere then s.first ≤ seen + 1 else s.first = seen + 1
            let replaced :=
              if counts then expandReplacement (cs.take size) place.groups s.replacement
              else cs.take size
            if counts && !s.everywhere then (replaced ++ cs.drop size, true)
            else if size = 0 then
              match cs with
              | [] => (replaced, counts)
              | c :: rest =>
                  let (changed, found) := s.apply fuel (position + 1) (seen + 1) false rest
                  (replaced ++ c :: changed, counts || found)
            else
              let (changed, found) :=
                s.apply fuel (position + size) (seen + 1) true (cs.drop size)
              (replaced ++ changed, counts || found)

inductive Address where
  | every
  | line (n : Nat)
  | last
  | holding (pattern : EditPattern)

inductive AddressEnd where
  | at (a : Address)
  /-- So many lines after the first one. -/
  | after (n : Nat)

inductive EditCommand where
  | substitute (s : Substitution)
  | map (pairs : List (Char × Char))
  | delete
  | print
  | number
  | quit
  | nothing
  | insertBefore (text : List Char)
  | insertAfter (text : List Char)
  | replace (text : List Char)

structure EditRule where
  start : Address
  stop : Option AddressEnd
  negated : Bool
  command : EditCommand
  /-- The last line that the rule is for, while it is; nothing stands for one not known yet. -/
  active : Option (Option Nat)

structure EditedLine where
  number : Nat
  isLast : Bool
  text : List Char
  isEnded : Bool

def Address.takes (a : Address) (l : EditedLine) : Bool :=
  match a with
  | .every => true
  | .line n => l.number == n
  | .last => l.isLast
  | .holding p =>
      (List.range (l.text.length + 1)).any fun n =>
        (p.longestFrom (· == ·) n (l.text.drop n)).isSome

def EditRule.takes (r : EditRule) (l : EditedLine) : Bool × EditRule :=
  match r.stop, r.active with
  | none, _ => (r.start.takes l, r)
  | some stop, none =>
      if !r.start.takes l then (false, r)
      else
        let until? : Option (Option Nat) :=
          match stop with
          | .after n => if n = 0 then none else some (some (l.number + n))
          | .at (.line n) => if n ≤ l.number then none else some (some n)
          | .at .last => if l.isLast then none else some none
          | .at _ => some none
        (true, { r with active := until? })
  | some stop, some last? =>
      let ends : Bool :=
        match last?, stop with
        | some n, _ => decide (n ≤ l.number)
        | none, .at a => a.takes l
        | none, .after _ => true
      (true, if ends then { r with active := none } else r)

/-- What is printed: a text, and whether a line feed follows it even at the end. -/
abbrev Printed := List (List Char × Bool)

structure EditState where
  line : EditedLine
  printed : Printed
  later : Printed
  isDropped : Bool
  isLastOne : Bool

def EditedLine.shown (l : EditedLine) : List Char × Bool := (l.text, l.isEnded)

def EditCommand.apply (c : EditCommand) (s : EditState) : EditState :=
  match c with
  | .substitute sub =>
      let (text, found) := sub.apply (s.line.text.length + 2) 0 0 false s.line.text
      let s := { s with line := { s.line with text := text } }
      if found && sub.prints then { s with printed := s.printed ++ [s.line.shown] } else s
  | .map pairs =>
      let change (c : Char) : Char := ((pairs.find? (·.1 == c)).map Prod.snd).getD c
      { s with line := { s.line with text := s.line.text.map change } }
  | .delete => { s with isDropped := true }
  | .print => { s with printed := s.printed ++ [s.line.shown] }
  | .number => { s with printed := s.printed ++ [((toString s.line.number).toList, true)] }
  | .quit => { s with isLastOne := true }
  | .nothing => s
  | .insertBefore text => { s with printed := s.printed ++ [(text, true)] }
  | .insertAfter text => { s with later := s.later ++ [(text, true)] }
  | .replace text => { s with printed := s.printed ++ [(text, true)], isDropped := true }

def applyRules : List EditRule -> EditState -> List EditRule × EditState
  | [], s => ([], s)
  | r :: rs, s =>
      if s.isDropped || s.isLastOne then (r :: rs, s)
      else
        let (takes, r) := r.takes s.line
        let s := if takes != r.negated then r.command.apply s else s
        let (rs, s) := applyRules rs s
        (r :: rs, s)

def editLines (silent : Bool) : List EditRule -> Nat -> List (List Char) -> Printed
  | _, _, [] => []
  | rules, number, piece :: pieces =>
      let text := dropEndWhile (· == '\n') piece
      let line : EditedLine := ⟨number, pieces.isEmpty, text, text.length < piece.length⟩
      let (rules, s) := applyRules rules ⟨line, [], [], false, false⟩
      let shown := if silent || s.isDropped then [] else [s.line.shown]
      let printed := s.printed ++ shown ++ s.later
      if s.isLastOne then printed else printed ++ editLines silent rules (number + 1) pieces

def joinPrinted : Printed -> List Char
  | [] => []
  | [(text, isEnded)] => if isEnded then text ++ ['\n'] else text
  | (text, _) :: rest => text ++ '\n' :: joinPrinted rest

def editText (rules : List EditRule) (silent : Bool) (text : List Char) : List Char :=
  joinPrinted (editLines silent rules 1 (pieces '\n' text))

/-- Cuts a text at a mark that has no backslash before it; nothing if there is none. -/
def cutAt (mark : Char) : List Char -> Option (List Char × List Char)
  | [] => none
  | '\\' :: c :: rest =>
      (cutAt mark rest).map fun (before, after) =>
        (if c = mark then c :: before else '\\' :: c :: before, after)
  | c :: rest =>
      if c = mark then some ([], rest)
      else (cutAt mark rest).map fun (before, after) => (c :: before, after)

/-- Why a script cannot be read, and what is left of it after the place where that shows. -/
structure ScriptError where
  reason : String
  rest : List Char

def readScriptNumber (cs : List Char) : Nat × List Char :=
  (Decimal.digitsValue (cs.takeWhile Char.isDigit), cs.dropWhile Char.isDigit)

def Address.read? (extended : Bool) (cs : List Char) :
    Except ScriptError (Option (Address × List Char)) :=
  match cs with
  | '/' :: rest =>
      match cutAt '/' rest with
      | some (pattern, rest) => .ok (some (.holding (EditPattern.read extended pattern), rest))
      | none => .error ⟨"unterminated address regex", []⟩
  | '$' :: rest => .ok (some (.last, rest))
  | c :: _ =>
      if c.isDigit then
        let (n, rest) := readScriptNumber cs
        .ok (some (.line n, rest))
      else .ok none
  | [] => .ok none

def readLetters : List Char -> Substitution -> Except ScriptError (Substitution × List Char)
  | [], s => .ok (s, [])
  | c :: rest, s =>
      if c = 'g' then readLetters rest { s with everywhere := true }
      else if c = 'p' then readLetters rest { s with prints := true }
      else if c = 'I' ∨ c = 'i' then readLetters rest { s with ignoresCase := true }
      else if c.isDigit ∧ c ≠ '0' then readLetters rest { s with first := c.toNat - 48 }
      else if c = ';' ∨ c = '\n' ∨ c = ' ' then .ok (s, c :: rest)
      else .error ⟨"unknown option to \x60s'", rest⟩

def readInserted (cs : List Char) : List Char × List Char :=
  let isSpace (c : Char) : Bool := c == ' ' || c == '\t'
  let cs :=
    match cs.dropWhile isSpace with
    | '\\' :: '\n' :: rest => rest
    | '\\' :: rest => rest.dropWhile isSpace
    | rest => rest
  (cs.takeWhile (· != '\n'), cs.dropWhile (· != '\n'))

def EditCommand.read (extended : Bool) (cs : List Char) :
    Except ScriptError (EditCommand × List Char) :=
  match cs with
  | [] => .error ⟨"missing command", []⟩
  | 's' :: mark :: rest => do
      let unterminated : ScriptError := ⟨"unterminated \x60s' command", []⟩
      match cutAt mark rest with
      | none => .error unterminated
      | some (pattern, rest) =>
          match cutAt mark rest with
          | none => .error unterminated
          | some (replacement, rest) => do
              let p := EditPattern.read extended pattern
              let (s, rest) ← readLetters rest ⟨p, replacement, 1, false, false, false⟩
              pure (.substitute s, rest)
  | 'y' :: mark :: rest =>
      match cutAt mark rest with
      | none => .error ⟨"unterminated \x60y' command", []⟩
      | some (old, rest) =>
          match cutAt mark rest with
          | none => .error ⟨"unterminated \x60y' command", []⟩
          | some (new, rest) => .ok (.map (old.zip new), rest)
  | c :: rest =>
      let inserted := readInserted rest
      match c with
      | 'd' => .ok (.delete, rest)
      | 'p' => .ok (.print, rest)
      | '=' => .ok (.number, rest)
      | 'q' => .ok (.quit, rest)
      | 'i' => .ok (.insertBefore inserted.1, inserted.2)
      | 'a' => .ok (.insertAfter inserted.1, inserted.2)
      | 'c' => .ok (.replace inserted.1, inserted.2)
      | '#' => .ok (.nothing, rest.dropWhile (· != '\n'))
      | _ => .error ⟨"unknown command: \x60" ++ String.singleton c ++ "'", rest⟩

def EditRule.read (extended : Bool) (cs : List Char) :
    Except ScriptError (EditRule × List Char) := do
  let (start, stop, rest) ←
    match (← Address.read? extended cs) with
    | none => pure (Address.every, none, cs)
    | some (start, ',' :: '+' :: rest) =>
        let (n, rest) := readScriptNumber rest
        pure (start, some (AddressEnd.after n), rest)
    | some (start, ',' :: rest) =>
        match (← Address.read? extended rest) with
        | some (stop, rest) => pure (start, some (AddressEnd.at stop), rest)
        | none => .error ⟨"unexpected \x60,'", rest⟩
    | some (start, rest) => pure (start, none, rest)
  let rest := rest.dropWhile (· == ' ')
  let (negated, rest) :=
    match rest with
    | '!' :: rest => (true, rest.dropWhile (· == ' '))
    | _ => (false, rest)
  let (command, rest) ← EditCommand.read extended rest
  pure (⟨start, stop, negated, command, none⟩, rest)

def readScript (extended : Bool) : Nat -> List Char -> Except ScriptError (List EditRule)
  | 0, _ => .ok []
  | fuel + 1, cs =>
      match cs.dropWhile fun c => c == ' ' || c == '\t' || c == '\n' || c == ';' with
      | [] => .ok []
      | cs => do
          let (rule, rest) ← EditRule.read extended cs
          match rest.dropWhile (· == ' ') with
          | [] => pure [rule]
          | c :: rest =>
              if c = ';' ∨ c = '\n' then do
                let rules ← readScript extended fuel rest
                pure (rule :: rules)
              else .error ⟨"extra characters after command", rest⟩

end Shell
end AnalysisHarness
