import AnalysisHarness.Pattern.Node
import AnalysisHarness.Text.Blank

/-!
# Flags of patterns

Flags change how the pattern text after them is read, up to the end of the group they stand in.
With the flag for extended text, blanks and comments in a pattern are passed over.
-/

namespace AnalysisHarness
namespace Pattern

inductive Fault where
  | unexpectedEnd
  | unclosedGroup
  | unopenedGroup
  | lookAround
  | badGroupName
  | badFlags
  | nothingToRepeat
  | badRepetition
  | badEscape
  | badBracket
  | badRange
  | unknownProperty
  | notAscii
  | tooDeep
  | tooLarge
  deriving DecidableEq, Repr

structure Flags where
  ignoreCase : Bool := false
  multiLine : Bool := false
  dotAll : Bool := false
  unicode : Bool := true
  crlf : Bool := false
  extended : Bool := false
  deriving DecidableEq, Repr

namespace Flags

/-- The flags with one of them set or cleared; which repetitions are greedy does not matter. -/
def assign (flags : Flags) (letter : Char) (value : Bool) : Option Flags :=
  match letter with
  | 'i' => some { flags with ignoreCase := value }
  | 'm' => some { flags with multiLine := value }
  | 's' => some { flags with dotAll := value }
  | 'U' => some flags
  | 'u' => some { flags with unicode := value }
  | 'R' => some { flags with crlf := value }
  | 'x' => some { flags with extended := value }
  | _ => none

end Flags

structure FlagSetting where
  flags : Flags
  isEmpty : Bool
  /-- A colon opens a group, a parenthesis sets the flags for the rest of this one. -/
  opensGroup : Bool
  rest : List Char

/--
Reads flag letters up to a colon or a closing parenthesis. No letter may be written twice, and a
hyphen, which makes the letters after it clear their flags, only once and before a letter.
-/
def FlagSetting.read (flags : Flags) (seen : List Char) :
    List Char -> Except Fault FlagSetting
  | [] => .error .unexpectedEnd
  | c :: rest =>
      if c = ':' ∨ c = ')' then
        if seen.head? = some '-' then .error .badFlags
        else .ok ⟨flags, seen.isEmpty, c == ':', rest⟩
      else if seen.contains c then .error .badFlags
      else if c = '-' then FlagSetting.read flags ('-' :: seen) rest
      else
        match flags.assign c (!seen.contains '-') with
        | none => .error .badFlags
        | some changed => FlagSetting.read changed (c :: seen) rest

/-- What follows blanks and comments; `inComment` while the end of a comment is looked for. -/
def skipBlanks (inComment : Bool) : List Char -> List Char
  | [] => []
  | c :: rest =>
      if inComment then skipBlanks (c != '\n') rest
      else if Text.isBlank c then skipBlanks false rest
      else if c = '#' then skipBlanks true rest
      else c :: rest

def Flags.skip (flags : Flags) (cs : List Char) : List Char :=
  if flags.extended then skipBlanks false cs else cs

end Pattern
end AnalysisHarness
