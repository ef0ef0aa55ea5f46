/-!
# Expressions of the shell

Expressions over integers of sixty-four bits, with the usual operators and their precedence. Truth
values are one and zero. The names of variables stand for the numbers that they hold, and can be
given other numbers.
-/

namespace AnalysisHarness
namespace Shell
namespace Arithmetic

inductive Fault where
  | expectsPrimary
  | expectsEnd
  | expectsParenthesis
  | expectsColon
  | divisionByZero
  | illegalNumber (text : String)
  deriving DecidableEq, Repr

def Fault.message (expression : String) : Fault -> String
  | expectsPrimary => inExpression "expecting primary"
  | expectsEnd => inExpression "expecting EOF"
  | expectsParenthesis => inExpression "expecting ')'"
  | expectsColon => inExpression "expecting ':'"
  | divisionByZero => inExpression "division by zero"
  | illegalNumber text => "Illegal number: " ++ text
where
  inExpression (reason : String) : String :=
    "arithmetic expression: " ++ reason ++ ": \"" ++ expression ++ "\""

inductive Symbol where
  | number (n : Int)
  | name (s : String)
  | sign (s : String)
  deriving DecidableEq, Repr

/-- An integer in sixty-four bits, of which those beyond are lost. -/
def wrap (n : Int) : Int := n.bmod (2 ^ 64)

def maxInteger : Nat := 2 ^ 63 - 1

def valueOfDigits (base : Nat) (digits : List Char) : Nat :=
  let value (c : Char) : Nat := if c.isDigit then c.toNat - 48 else c.toLower.toNat - 87
  digits.foldl (fun n c => n * base + value c) 0

def isHexDigit (c : Char) : Bool :=
  c.isDigit || ('a' ≤ c && c ≤ 'f') || ('A' ≤ c && c ≤ 'F')

/--
The number at the beginning of a text and what follows it: octal after a zero, hexadecimal after a
zero and x.
-/
def readNumeral (cs : List Char) : Nat × List Char :=
  let isOctal (c : Char) : Bool := '0' ≤ c && c ≤ '7'
  let upTo (base : Nat) (isDigit : Char -> Bool) (cs : List Char) : Nat × List Char :=
    (valueOfDigits base (cs.takeWhile isDigit), cs.dropWhile isDigit)
  match cs with
  | '0' :: x :: c :: rest =>
      if (x = 'x' ∨ x = 'X') ∧ isHexDigit c then upTo 16 isHexDigit (c :: rest)
      else upTo 8 isOctal cs
  | '0' :: _ => upTo 8 isOctal cs
  | _ => upTo 10 Char.isDigit cs

def readSigned (cs : List Char) : Bool × List Char :=
  match cs.dropWhile Char.isWhitespace with
  | '-' :: rest => (true, rest)
  | '+' :: rest => (false, rest)
  | rest => (false, rest)

def numberOf? (text : String) : Option Int :=
  let (negative, digits) := readSigned text.toList
  let (n, rest) := readNumeral digits
  if text.toList.all Char.isWhitespace then some 0
  else if rest.length < digits.length ∧ rest.all Char.isWhitespace then
    some (if negative then -(Nat.min n (maxInteger + 1)) else Nat.min n maxInteger)
  else none

/-- The signs of more than one character, longer ones first. -/
def longSigns : List String :=
  ["<<=", ">>=", "||", "&&", "==", "!=", "<=", ">=", "<<", ">>", "+=", "-=", "*=", "/=", "%=",
    "&=", "|=", "^="]

def symbols : Nat -> List Char -> List Symbol
  | 0, _ => []
  | fuel + 1, cs =>
      match cs with
      | [] => []
      | c :: rest =>
          if c.isWhitespace then symbols fuel rest
          else if c.isDigit then
            let (n, rest) := readNumeral cs
            .number (Nat.min n maxInteger) :: symbols fuel rest
          else if c.isAlpha ∨ c = '_' then
            let inName (c : Char) : Bool := c.isAlphanum || c == '_'
            .name (String.ofList (cs.takeWhile inName)) :: symbols fuel (cs.dropWhile inName)
          else
            match longSigns.find? fun s => s.toList.isPrefixOf cs with
            | some s => .sign s :: symbols fuel (cs.drop s.length)
            | none => .sign (String.singleton c) :: symbols fuel rest

inductive Expression where
  | number (n : Int)
  | name (s : String)
  | before (op : String) (a : Expression)
  | between (op : String) (a b : Expression)
  | choose (condition yes no : Expression)
  | assign (name : String) (a : Expression)
  deriving Repr

/-- The operators between two operands, those that bind least first. -/
def levels : List (List String) :=
  [["||"], ["&&"], ["|"], ["^"], ["&"], ["==", "!="], ["<=", ">=", "<", ">"], ["<<", ">>"],
    ["+", "-"], ["*", "/", "%"]]

def operatorsBefore : List String := ["-", "+", "!", "~"]

/-- The operator that an assignment joins with the old value, if it is one. -/
def assignmentOperator? (sign : String) : Option (Option String) :=
  if sign = "=" then some none
  else if ["+=", "-=", "*=", "/=", "%=", "&=", "|=", "^=", "<<=", ">>="].contains sign then
    some (some (String.ofList sign.toList.dropLast))
  else none

mutual

def readAssignment : Nat -> List Symbol -> Except Fault (Expression × List Symbol)
  | 0, _ => .error .expectsPrimary
  | fuel + 1, symbols =>
      match symbols with
      | .name s :: .sign op :: rest =>
          match assignmentOperator? op with
          | some joined => do
              let (a, rest) ← readAssignment fuel rest
              match joined with
              | some op => pure (.assign s (.between op (.name s) a), rest)
              | none => pure (.assign s a, rest)
          | none => readChoice fuel symbols
      | _ => readChoice fuel symbols

def readChoice : Nat -> List Symbol -> Except Fault (Expression × List Symbol)
  | 0, _ => .error .expectsPrimary
  | fuel + 1, symbols => do
      let (condition, rest) ← readLevel fuel levels symbols
      match rest with
      | .sign "?" :: rest => do
          let (yes, rest) ← readAssignment fuel rest
          match rest with
          | .sign ":" :: rest => do
              let (no, rest) ← readChoice fuel rest
              pure (.choose condition yes no, rest)
          | _ => .error .expectsColon
      | _ => pure (condition, rest)

def readLevel : Nat -> List (List String) -> List Symbol -> Except Fault (Expression × List Symbol)
  | 0, _, _ => .error .expectsPrimary
  | fuel + 1, [], symbols =>
      match symbols with
      | .number n :: rest => .ok (.number n, rest)
      | .name s :: rest => .ok (.name s, rest)
      | .sign "(" :: rest => do
          let (a, rest) ← readAssignment fuel rest
          match rest with
          | .sign ")" :: rest => pure (a, rest)
          | _ => .error .expectsParenthesis
      | .sign op :: rest =>
          if operatorsBefore.contains op then do
            let (a, rest) ← readLevel fuel [] rest
            pure (.before op a, rest)
          else .error .expectsPrimary
      | [] => .error .expectsPrimary
  | fuel + 1, level :: deeper, symbols => do
      let (a, rest) ← readLevel fuel deeper symbols
      goOn fuel level deeper a rest

def goOn : Nat -> List String -> List (List String) -> Expression -> List Symbol ->
    Except Fault (Expression × List Symbol)
  | 0, _, _, a, symbols => .ok (a, symbols)
  | fuel + 1, level, deeper, a, symbols =>
      match symbols with
      | .sign op :: rest =>
          if level.contains op then do
            let (b, rest) ← readLevel fuel deeper rest
            goOn fuel level deeper (.between op a b) rest
          else .ok (a, symbols)
      | _ => .ok (a, symbols)

end

def Expression.read (text : List Char) : Except Fault Expression := do
  let symbols := symbols (text.length + 1) text
  let (a, rest) ← readAssignment (16 * symbols.length + 32) symbols
  if rest.isEmpty then pure a else .error .expectsEnd

def ofBool (b : Bool) : Int := if b then 1 else 0

def applyBefore (op : String) (a : Int) : Int :=
  match op with
  | "-" => wrap (-a)
  | "!" => ofBool (a == 0)
  | "~" => -a - 1
  | _ => a

def combine (op : String) (a b : Int) : Except Fault Int :=
  let onBits (f : Int64 -> Int64 -> Int64) : Except Fault Int :=
    .ok (f (Int64.ofInt a) (Int64.ofInt b)).toInt
  match op with
  | "|" => onBits (· ||| ·)
  | "^" => onBits (· ^^^ ·)
  | "&" => onBits (· &&& ·)
  | "<<" => onBits (· <<< ·)
  | ">>" => onBits (· >>> ·)
  | "==" => .ok (ofBool (a == b))
  | "!=" => .ok (ofBool (a != b))
  | "<=" => .ok (ofBool (decide (a ≤ b)))
  | ">=" => .ok (ofBool (decide (b ≤ a)))
  | "<" => .ok (ofBool (decide (a < b)))
  | ">" => .ok (ofBool (decide (b < a)))
  | "+" => .ok (wrap (a + b))
  | "-" => .ok (wrap (a - b))
  | "*" => .ok (wrap (a * b))
  | "/" => if b = 0 then .error .divisionByZero else .ok (wrap (a.tdiv b))
  | "%" => if b = 0 then .error .divisionByZero else .ok (a.tmod b)
  | _ => .error .expectsPrimary

abbrev Assigned := List (String × Int)

/-- The value of an expression, and the numbers that names are given on the way. -/
def Expression.evaluate (lookup : String -> Except Fault Int) :
    Expression -> Assigned -> Except Fault (Int × Assigned)
  | number n, assigned => .ok (n, assigned)
  | name s, assigned =>
      match assigned.find? (·.1 == s) with
      | some (_, n) => .ok (n, assigned)
      | none => (lookup s).map fun n => (n, assigned)
  | before op a, assigned => do
      let (n, assigned) ← a.evaluate lookup assigned
      pure (applyBefore op n, assigned)
  | between "&&" a b, assigned => do
      let (n, assigned) ← a.evaluate lookup assigned
      if n = 0 then pure (0, assigned)
      else do
        let (m, assigned) ← b.evaluate lookup assigned
        pure (ofBool (m != 0), assigned)
  | between "||" a b, assigned => do
      let (n, assigned) ← a.evaluate lookup assigned
      if n ≠ 0 then pure (1, assigned)
      else do
        let (m, assigned) ← b.evaluate lookup assigned
        pure (ofBool (m != 0), assigned)
  | between op a b, assigned => do
      let (n, assigned) ← a.evaluate lookup assigned
      let (m, assigned) ← b.evaluate lookup assigned
      let result ← combine op n m
      pure (result, assigned)
  | choose condition yes no, assigned => do
      let (n, assigned) ← condition.evaluate lookup assigned
      if n = 0 then no.evaluate lookup assigned else yes.evaluate lookup assigned
  | assign s a, assigned => do
      let (n, assigned) ← a.evaluate lookup assigned
      pure (n, (s, n) :: assigned)

end Arithmetic
end Shell
end AnalysisHarness
