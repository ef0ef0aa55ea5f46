import AnalysisHarness.Json.Value

/-!
# Printing JSON

Values on one line without spaces, or on several lines with two spaces for each level. In strings
the quotation mark, the backslash and the control characters are escaped, the latter by a letter
where there is one.
-/

namespace AnalysisHarness
namespace Json

def hexDigit (n : Nat) : Char :=
  if n < 10 then Char.ofNat (48 + n) else Char.ofNat (87 + n)

def escapeChar (c : Char) : List Char :=
  if c = '"' then ['\\', '"']
  else if c = '\\' then ['\\', '\\']
  else if c = '\x08' then ['\\', 'b']
  else if c = '\x0c' then ['\\', 'f']
  else if c = '\n' then ['\\', 'n']
  else if c = '\r' then ['\\', 'r']
  else if c = '\t' then ['\\', 't']
  else if c.toNat < 32 then
    ['\\', 'u', '0', '0', hexDigit (c.toNat / 16), hexDigit (c.toNat % 16)]
  else [c]

def quote (s : String) : List Char :=
  '"' :: s.toList.flatMap escapeChar ++ ['"']

/-- How the parts of arrays and objects are set apart. -/
structure Spacing where
  /-- What stands before each part and before the closing bracket, for a level. -/
  lineBreak : Nat -> List Char
  afterKey : List Char

def Spacing.tight : Spacing := ⟨fun _ => [], [':']⟩

def Spacing.indented : Spacing :=
  ⟨fun level => '\n' :: List.replicate (2 * level) ' ', [':', ' ']⟩

mutual

def write (spacing : Spacing) (level : Nat) : Json -> List Char
  | null => "null".toList
  | bool true => "true".toList
  | bool false => "false".toList
  | number n => n.write
  | string s => quote s
  | array [] => "[]".toList
  | array (item :: items) =>
      '[' :: spacing.lineBreak (level + 1) ++ write spacing (level + 1) item ++
        writeItems spacing (level + 1) items ++ spacing.lineBreak level ++ [']']
  | object [] => ['\x7b', '\x7d']
  | object ((key, value) :: members) =>
      '\x7b' :: spacing.lineBreak (level + 1) ++ quote key ++ spacing.afterKey ++
        write spacing (level + 1) value ++ writeMembers spacing (level + 1) members ++
        spacing.lineBreak level ++ ['\x7d']

def writeItems (spacing : Spacing) (level : Nat) : List Json -> List Char
  | [] => []
  | item :: items =>
      ',' :: spacing.lineBreak level ++ write spacing level item ++ writeItems spacing level items

def writeMembers (spacing : Spacing) (level : Nat) : List (String × Json) -> List Char
  | [] => []
  | (key, value) :: members =>
      ',' :: spacing.lineBreak level ++ quote key ++ spacing.afterKey ++
        write spacing level value ++ writeMembers spacing level members

end

def compact (j : Json) : String := String.ofList (write .tight 0 j)

def pretty (j : Json) : String := String.ofList (write .indented 0 j)

end Json
end AnalysisHarness
