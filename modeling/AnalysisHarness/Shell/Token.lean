import AnalysisHarness.Text.Segments

/-!
# Words and operators of the shell

A command line is cut into words and operators. Inside a word, quoted and unquoted texts,
variables and commands to be replaced by their output stand side by side.
-/

namespace AnalysisHarness
namespace Shell

inductive Part where
  | text (quoted : Bool) (s : List Char)
  /-- The value of a variable, or of a parameter with a sign for its name. -/
  | value (quoted : Bool) (name : String)
  /-- The value of a variable put through an operation, for which a further word is given. -/
  | modified (quoted : Bool) (name operation : String) (word : List Char)
  | output (quoted : Bool) (command : List Char)
  | number (quoted : Bool) (expression : List Char)
  deriving DecidableEq, Repr

abbrev Word := List Part

inductive Token where
  | word (w : Word)
  | operator (s : String)
  | descriptor (n : Nat)
  /-- The lines below that are to be read from. -/
  | hereText (w : Word)
  | lineBreak
  | bad (reason : String)
  deriving DecidableEq, Repr

structure Placed where
  token : Token
  line : Nat

def endsWord (c : Char) : Bool :=
  c == ' ' || c == '\t' || c == '\n' || c == ';' || c == '&' || c == '|' || c == '<' ||
    c == '>' || c == '(' || c == ')'

def isNameChar (c : Char) : Bool := c.isAlphanum || c == '_'

/-- Puts a character at the end of a word, the parts of which are in reverse order. -/
def pushChar (quoted : Bool) (c : Char) : List Part -> List Part
  | .text q s :: parts =>
      if q = quoted then .text q (s ++ [c]) :: parts else .text quoted [c] :: .text q s :: parts
  | parts => .text quoted [c] :: parts

def pushQuote (parts : List Part) : List Part := .text true [] :: parts

def unterminated : String := "Unterminated quoted string"

structure Enclosure where
  opening : Char
  closing : Char
  complaint : String

def parentheses : Enclosure :=
  ⟨'(', ')', "end of file unexpected (expecting \")\")"⟩

def doubleParentheses : Enclosure := ⟨'(', ')', "Missing '))'"⟩

def braces : Enclosure := ⟨'\x7b', '\x7d', "Missing '\x7d'"⟩

/--
Reads up to the mark that closes a text, with those opened inside it. Marks in quotation marks do
not count; `quote` is the quotation mark that is open.
-/
def Enclosure.read (e : Enclosure) :
    Option Char -> Nat -> List Char -> List Char -> Except String (List Char × List Char)
  | some _, _, _, [] => .error unterminated
  | none, _, _, [] => .error e.complaint
  | quote, depth, seen, '\\' :: c :: rest =>
      if quote = some '\'' ∧ c = '\'' then e.read none depth (c :: '\\' :: seen) rest
      else e.read quote depth (c :: '\\' :: seen) rest
  | some q, depth, seen, c :: rest =>
      e.read (if c = q then none else some q) depth (c :: seen) rest
  | none, depth, seen, c :: rest =>
      if c = '\'' ∨ c = '"' then e.read (some c) depth (c :: seen) rest
      else if c = e.opening then e.read none (depth + 1) (c :: seen) rest
      else if c = e.closing then
        match depth with
        | 0 => .ok (seen.reverse, rest)
        | depth + 1 => e.read none depth (c :: seen) rest
      else e.read none depth (c :: seen) rest

/--
Reads a command up to the second of two grave accents. A backslash before one of the characters
that it protects is not part of the command.
-/
def readGraves (quoted : Bool) : List Char -> List Char -> Except String (List Char × List Char)
  | _, [] => .error "EOF in backquote substitution"
  | seen, '\\' :: c :: rest =>
      if c = '\x60' ∨ c = '\\' ∨ c = '$' ∨ (quoted ∧ c = '"') then
        readGraves quoted (c :: seen) rest
      else readGraves quoted (c :: '\\' :: seen) rest
  | seen, c :: rest =>
      if c = '\x60' then .ok (seen.reverse, rest) else readGraves quoted (c :: seen) rest

def isParameterSign (c : Char) : Bool := ['?', '$', '#', '@', '*', '!', '-'].contains c || c.isDigit

def operations : List String :=
  [":-", ":=", ":+", ":?", "-", "=", "+", "?", "%%", "%", "##", "#"]

def readOperation (cs : List Char) : Option (String × List Char) :=
  operations.findSome? fun op =>
    if op.toList.isPrefixOf cs then some (op, cs.drop op.length) else none

def meaning? (quoted : Bool) (cs : List Char) : Option Part :=
  let named (cs : List Char) : Option (String × List Char) :=
    match cs with
    | c :: rest =>
        if isParameterSign c then some (String.singleton c, rest)
        else if isNameChar c then
          some (String.ofList (cs.takeWhile isNameChar), cs.dropWhile isNameChar)
        else none
    | [] => none
  match cs with
  | '#' :: c :: rest =>
      match named (c :: rest) with
      | some (name, []) => some (.modified quoted name "length" [])
      | _ => none
  | _ =>
      match named cs with
      | some (name, []) => some (.value quoted name)
      | some (name, rest) =>
          (readOperation rest).map fun (op, word) => .modified quoted name op word
      | none => none

/-- What stands in braces after a dollar sign; an operation without a name if it has no meaning. -/
def ofBraces (quoted : Bool) (inner : List Char) : Part :=
  (meaning? quoted inner).getD (.modified quoted "" "" inner)

def ofParentheses (quoted : Bool) (inner : List Char) : Part :=
  match inner with
  | '(' :: rest =>
      if rest.getLast? = some ')' then .number quoted rest.dropLast else .output quoted inner
  | _ => .output quoted inner

/-- Reads what follows a dollar sign; if that has no meaning, the dollar sign stands for itself. -/
def readDollar (quoted : Bool) (cs : List Char) : Except String (Part × List Char) :=
  match cs with
  | '(' :: rest =>
      let enclosure := if rest.head? = some '(' then doubleParentheses else parentheses
      (enclosure.read none 0 [] rest).map fun (inner, rest) => (ofParentheses quoted inner, rest)
  | '\x7b' :: rest =>
      (braces.read none 0 [] rest).map fun (inner, rest) => (ofBraces quoted inner, rest)
  | c :: rest =>
      if isParameterSign c then .ok (.value quoted (String.singleton c), rest)
      else if isNameChar c then
        .ok (.value quoted (String.ofList (cs.takeWhile isNameChar)), cs.dropWhile isNameChar)
      else .ok (.text quoted ['$'], cs)
  | [] => .ok (.text quoted ['$'], [])

def readWord : Nat -> List Part -> List Char -> Except String (Word × List Char)
  | 0, _, _ => .error unterminated
  | fuel + 1, parts, cs =>
      match cs with
      | [] => .ok (parts.reverse, [])
      | '\\' :: '\n' :: rest => readWord fuel parts rest
      | '\\' :: c :: rest => readWord fuel (pushChar true c parts) rest
      | '\\' :: [] => .ok ((pushChar true '\\' parts).reverse, [])
      | '\'' :: rest =>
          match rest.dropWhile (· != '\'') with
          | _ :: after =>
              readWord fuel (.text true (rest.takeWhile (· != '\'')) :: parts) after
          | [] => .error unterminated
      | '"' :: rest => readQuoted fuel (pushQuote parts) rest
      | '$' :: rest =>
          match readDollar false rest with
          | .ok (part, rest) => readWord fuel (part :: parts) rest
          | .error e => .error e
      | '\x60' :: rest =>
          match readGraves false [] rest with
          | .ok (command, rest) => readWord fuel (.output false command :: parts) rest
          | .error e => .error e
      | c :: rest =>
          if endsWord c then .ok (parts.reverse, c :: rest)
          else readWord fuel (pushChar false c parts) rest
where
  readQuoted : Nat -> List Part -> List Char -> Except String (Word × List Char)
  | 0, _, _ => .error unterminated
  | fuel + 1, parts, cs =>
      match cs with
      | [] => .error unterminated
      | '"' :: rest => readWord fuel parts rest
      | '\\' :: '\n' :: rest => readQuoted fuel parts rest
      | '\\' :: c :: rest =>
          if c = '$' ∨ c = '\x60' ∨ c = '"' ∨ c = '\\' then
            readQuoted fuel (pushChar true c parts) rest
          else readQuoted fuel (pushChar true c (pushChar true '\\' parts)) rest
      | '$' :: rest =>
          match readDollar true rest with
          | .ok (part, rest) => readQuoted fuel (part :: parts) rest
          | .error e => .error e
      | '\x60' :: rest =>
          match readGraves true [] rest with
          | .ok (command, rest) => readQuoted fuel (.output true command :: parts) rest
          | .error e => .error e
      | c :: rest => readQuoted fuel (pushChar true c parts) rest

def linesBetween (before after : List Char) : Nat := before.count '\n' - after.count '\n'

def readOperator : List Char -> Option (String × List Char)
  | ';' :: ';' :: rest => some (";;", rest)
  | '&' :: '&' :: rest => some ("&&", rest)
  | '|' :: '|' :: rest => some ("||", rest)
  | '>' :: '>' :: rest => some (">>", rest)
  | '>' :: '&' :: rest => some (">&", rest)
  | '>' :: '|' :: rest => some (">|", rest)
  | '<' :: '&' :: rest => some ("<&", rest)
  | '<' :: '>' :: rest => some ("<>", rest)
  | c :: rest =>
      if c = ';' ∨ c = '&' ∨ c = '|' ∨ c = '<' ∨ c = '>' ∨ c = '(' ∨ c = ')' then
        some (String.singleton c, rest)
      else none
  | [] => none

def startsRedirection : List Char -> Bool
  | '<' :: _ => true
  | '>' :: _ => true
  | _ => false

/-- A text as a word, as if it stood in double quotation marks. -/
def quotedWord (cs : List Char) : Except String Word :=
  let guarded := (guard cs) ++ ['"']
  (readWord.readQuoted (guarded.length + 1) [.text true []] guarded).map Prod.fst
where
  guard : List Char -> List Char
    | '\\' :: '"' :: rest => '\\' :: '\\' :: '\\' :: '"' :: guard rest
    | '\\' :: c :: rest => '\\' :: c :: guard rest
    | '"' :: rest => '\\' :: '"' :: guard rest
    | c :: rest => c :: guard rest
    | [] => []

def literalText (w : Word) : List Char × Bool :=
  (w.flatMap fun part =>
    match part with
    | .text _ s => s
    | _ => [],
   w.any fun part =>
    match part with
    | .text quoted _ => quoted
    | _ => false)

def takeLines (stripped : Bool) (delimiter : List Char) :
    List (List Char) -> List Char × List Char
  | [] => ([], [])
  | line :: lines =>
      let line := if stripped then line.dropWhile (· == '\t') else line
      if line.filter (· != '\n') = delimiter then ([], lines.flatten)
      else
        let (before, after) := takeLines stripped delimiter lines
        (line ++ before, after)

/--
Reads the delimiter of a text given in the lines below, and that text. The answer is the text and
everything else, as if the lines of the text were not there.
-/
def readHereText (stripped : Bool) (cs : List Char) : Except String (Word × List Char) := do
  let cs := cs.dropWhile fun c => c == ' ' || c == '\t'
  if cs.isEmpty then .error "end of file unexpected"
  else if cs.head? = some '\n' then .error "newline unexpected"
  let (mark, rest) ← readWord (cs.length + 1) [] cs
  let (delimiter, quoted) := literalText mark
  let line := rest.takeWhile (· != '\n')
  let below := (rest.dropWhile (· != '\n')).drop 1
  let (text, after) := takeLines stripped delimiter (Text.pieces '\n' below)
  let w ← if quoted then .ok [.text true text] else quotedWord text
  pure (w, line ++ '\n' :: after)

/-- The beginning of a text given in the lines below, and whether its lines lose leading tabs. -/
def startsHereText? : List Char -> Option (Bool × List Char)
  | '<' :: '<' :: '-' :: rest => some (true, rest)
  | '<' :: '<' :: rest => some (false, rest)
  | _ => none

def tokensFrom : Nat -> Nat -> List Char -> List Placed
  | 0, _, _ => []
  | fuel + 1, line, cs =>
      let bad (reason : String) : List Placed := [⟨.bad reason, line + cs.count '\n'⟩]
      match cs with
      | [] => []
      | '\n' :: rest => ⟨.lineBreak, line⟩ :: tokensFrom fuel (line + 1) rest
      | '\\' :: '\n' :: rest => tokensFrom fuel (line + 1) rest
      | c :: rest =>
          if c = ' ' ∨ c = '\t' then tokensFrom fuel line rest
          else if c = '#' then tokensFrom fuel line (rest.dropWhile (· != '\n'))
          else
            match startsHereText? cs with
            | some (stripped, rest) =>
                match readHereText stripped rest with
                | .ok (w, rest) => ⟨.hereText w, line⟩ :: tokensFrom fuel line rest
                | .error reason => bad reason
            | none =>
                match readOperator cs with
                | some (op, rest) => ⟨.operator op, line⟩ :: tokensFrom fuel line rest
                | none =>
                    let digits := cs.takeWhile Char.isDigit
                    let after := cs.dropWhile Char.isDigit
                    if !digits.isEmpty && startsRedirection after then
                      let n := digits.foldl (fun n c => n * 10 + (c.toNat - 48)) 0
                      ⟨.descriptor n, line⟩ :: tokensFrom fuel line after
                    else
                      match readWord (cs.length + 1) [] cs with
                      | .ok (w, rest) =>
                          ⟨.word w, line⟩ :: tokensFrom fuel (line + linesBetween cs rest) rest
                      | .error reason => bad reason

def tokens (text : List Char) : List Placed := tokensFrom (2 * text.length + 2) 1 text

end Shell
end AnalysisHarness
