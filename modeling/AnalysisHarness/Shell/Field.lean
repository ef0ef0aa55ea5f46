import AnalysisHarness.Shell.State

/-!
# Fields

What a word comes to: no text, one, or several, where blanks in a value or the names of files make
more of it. Quoted characters are kept apart, as they never do.
-/

namespace AnalysisHarness
namespace Shell

open Text

/-- The characters of a field, each with whether it was quoted. -/
abbrev Field := List (Bool × Char)

/-- The fields of a word so far, last one first, and the one being put together, if any. -/
structure Fields where
  done : List Field
  current : Option Field

namespace Fields

def none : Fields := ⟨[], .none⟩

def add (quoted : Bool) (cs : List Char) (f : Fields) : Fields :=
  { f with current := some (f.current.getD [] ++ cs.map fun c => (quoted, c)) }

def finish (f : Fields) : Fields :=
  match f.current with
  | .none => f
  | some field => ⟨field :: f.done, .none⟩

def addSplit (cs : List Char) (f : Fields) : Fields :=
  cs.foldl
    (fun f c => if c = ' ' ∨ c = '\t' ∨ c = '\n' then f.finish else f.add false [c])
    f

def addValue (quoted : Bool) (cs : List Char) (f : Fields) : Fields :=
  if quoted then f.add true cs else f.addSplit cs

/-- The fields with several quoted texts at their end, each of which begins a field. -/
def addEach (texts : List String) (f : Fields) : Fields :=
  match texts with
  | [] => f
  | first :: others =>
      others.foldl (fun f t => f.finish.add true t.toList) (f.add true first.toList)

def toList (f : Fields) : List Field := f.finish.done.reverse

end Fields

def fieldText (f : Field) : String := String.ofList (f.map Prod.snd)

def splitBracket (pattern : Field) : Option (Field × Field) :=
  let inside := pattern.takeWhile fun c => c.2 != ']'
  match pattern.drop inside.length with
  | _ :: after => if inside.isEmpty then none else some (inside, after)
  | [] => none

def bracketTakes (inside : Field) (c : Char) : Bool :=
  let text := inside.map Prod.snd
  match text with
  | '!' :: members => !((readMembers members).any fun m => m.1 ≤ c && c ≤ m.2)
  | members => (readMembers members).any fun m => m.1 ≤ c && c ≤ m.2
where
  readMembers : List Char -> List (Char × Char)
    | a :: '-' :: b :: rest => (a, b) :: readMembers rest
    | a :: rest => (a, a) :: readMembers rest
    | [] => []

def globMatches : Nat -> Field -> List Char -> Bool
  | 0, _, _ => false
  | _ + 1, [], text => text.isEmpty
  | fuel + 1, (false, '*') :: rest, text =>
      globMatches fuel rest text ||
        match text with
        | [] => false
        | _ :: more => globMatches fuel ((false, '*') :: rest) more
  | fuel + 1, (false, '?') :: rest, text =>
      match text with
      | [] => false
      | _ :: more => globMatches fuel rest more
  | fuel + 1, (quoted, c) :: rest, text =>
      match text with
      | [] => false
      | d :: more =>
          match if !quoted && c == '[' then splitBracket rest else none with
          | some (inside, after) => bracketTakes inside d && globMatches fuel after more
          | none => c == d && globMatches fuel rest more

def standsFor (pattern : Field) (text : List Char) : Bool :=
  globMatches (pattern.length + text.length + 1) pattern text

def isPattern (field : Field) : Bool :=
  field.any fun c => !c.1 && (c.2 == '*' || c.2 == '?' || c.2 == '[')

/-- The names that a field stands for: itself, unless it is a pattern and stands for some. -/
def expandGlob (s : State) (field : Field) : List String :=
  if isPattern field then
    let reversed := field.reverse
    let name := (reversed.takeWhile fun c => c.2 != '/').reverse
    let folder := fieldText (reversed.dropWhile fun c => c.2 != '/').reverse
    let place := if folder = "" then .ok s.directory else s.view.find folder
    match place with
    | .error _ => [fieldText field]
    | .ok id =>
        let hidden := name.head?.map Prod.snd == some '.'
        let names := (s.files.listing id).keys.filter fun n =>
          (hidden || n.toList.head? != some '.') && standsFor name n.toList
        if names.isEmpty then [fieldText field] else names.map (folder ++ ·)
  else [fieldText field]

def ownNumber : String := "4242"

def numbered? (s : State) (name : String) : Option String :=
  match name.toNat? with
  | none => none
  | some 0 => some "sh"
  | some (n + 1) => s.parameters[n]?

def valueOf? (s : State) (name : String) : Option String :=
  match name with
  | "?" => some (toString s.status)
  | "$" => some ownNumber
  | "#" => some (toString s.parameters.length)
  | "@" => if s.parameters.isEmpty then none else some (String.intercalate " " s.parameters)
  | "*" => if s.parameters.isEmpty then none else some (String.intercalate " " s.parameters)
  | "PWD" => some s.currentPath
  | _ => numbered? s name <|> s.bindings.find? name

def valueOf (s : State) (name : String) : String := (valueOf? s name).getD ""

/-- The shortest or longest beginning that a pattern stands for, taken away. -/
def withoutStart (longest : Bool) (pattern : Field) (cs : List Char) : List Char :=
  let sizes := List.range (cs.length + 1)
  let sizes := if longest then sizes.reverse else sizes
  match sizes.find? fun n => standsFor pattern (cs.take n) with
  | some n => cs.drop n
  | none => cs

def withoutEnd (longest : Bool) (pattern : Field) (cs : List Char) : List Char :=
  let sizes := List.range (cs.length + 1)
  let sizes := if longest then sizes else sizes.reverse
  match sizes.find? fun n => standsFor pattern (cs.drop n) with
  | some n => cs.take n
  | none => cs

def trimmed (operation : String) (pattern : Field) (cs : List Char) : List Char :=
  match operation with
  | "%" => withoutEnd false pattern cs
  | "%%" => withoutEnd true pattern cs
  | "#" => withoutStart false pattern cs
  | "##" => withoutStart true pattern cs
  | _ => cs

def assignment? (w : Word) : Option (String × Word) :=
  match w with
  | .text false cs :: rest =>
      let name := cs.takeWhile isNameChar
      match cs.dropWhile isNameChar with
      | '=' :: after =>
          match name with
          | c :: _ =>
              if c.isDigit then none else some (String.ofList name, .text false after :: rest)
          | [] => none
      | _ => none
  | _ => none

def splitAssignments : List Word -> List (String × Word) × List Word
  | [] => ([], [])
  | w :: ws =>
      match assignment? w with
      | some a =>
          let (rest, words) := splitAssignments ws
          (a :: rest, words)
      | none => ([], w :: ws)

def runsCommand (w : Word) : Bool :=
  w.any fun part =>
    match part with
    | .output _ _ => true
    | _ => false

end Shell
end AnalysisHarness
