import AnalysisHarness.CommandLine.Command
import AnalysisHarness.Text.Search

/-!
# Arguments

Arguments are read from left to right: a word that names the command, and around it options with
values, flags and the operand of the command. Reading stops at the first argument that cannot be
meant, or that asks for help.
-/

namespace AnalysisHarness
namespace CommandLine

/-- Why there is no command to carry out. -/
inductive Stop where
  | help
  | version
  | misuse
  deriving DecidableEq, Repr

def Stop.exitCode : Stop -> Nat
  | help => 0
  | version => 0
  | misuse => 2

structure OptionRule where
  name : String
  letter : Option Char
  repeatable : Bool
  accepts : String -> Bool

structure Given where
  verbosity : Nat
  quiet : Bool
  operand : Option String
  options : List (String × String)

namespace Given

def nothing : Given := ⟨0, false, none, []⟩

def value? (g : Given) (name : String) : Option String :=
  (g.options.find? fun o => o.1 == name).map Prod.snd

def values (g : Given) (name : String) : List String :=
  (g.options.filter fun o => o.1 == name).map Prod.snd

def set (g : Given) (o : OptionRule) (value : String) : Except Stop Given :=
  if !o.accepts value ∨ (!o.repeatable ∧ (g.value? o.name).isSome) then .error .misuse
  else .ok { g with options := g.options ++ [(o.name, value)] }

def isConsistent (g : Given) : Bool := !(g.quiet && decide (0 < g.verbosity))

end Given

/-- What can be given for a command, or before it. -/
structure Grammar where
  options : List OptionRule
  operand : Option (String -> Bool)
  hasVersion : Bool

def flag (g : Grammar) (name : String) (given : Given) : Except Stop Given :=
  match name with
  | "verbose" => .ok { given with verbosity := given.verbosity + 1 }
  | "quiet" => if given.quiet then .error .misuse else .ok { given with quiet := true }
  | "help" => .error .help
  | "version" => if g.hasVersion then .error .version else .error .misuse
  | _ => .error .misuse

def flagOfLetter : Char -> Option String
  | 'v' => some "verbose"
  | 'q' => some "quiet"
  | 'h' => some "help"
  | 'V' => some "version"
  | _ => none

/-- What has been given, and the option that the next argument is the value of, if there is one. -/
abbrev Reading := Given × Option OptionRule

def readLong (g : Grammar) (text : List Char) (given : Given) : Except Stop Reading := do
  let (name, value) :=
    match Text.splitFirst ['='] text with
    | some (name, value) => (String.ofList name, some (String.ofList value))
    | none => (String.ofList text, none)
  match g.options.find? fun o => o.name == name, value with
  | some o, some value =>
      let given ← given.set o value
      pure (given, none)
  | some o, none => pure (given, some o)
  | none, some _ => .error .misuse
  | none, none =>
      let given ← flag g name given
      pure (given, none)

/-- Reads letters after a hyphen. What follows the letter of an option is its value. -/
def readLetters (g : Grammar) : List Char -> Given -> Except Stop Reading
  | [], given => .ok (given, none)
  | c :: rest, given =>
      match g.options.find? fun o => o.letter == some c with
      | some o =>
          match rest with
          | [] => .ok (given, some o)
          | '=' :: value | value => do
              let given ← given.set o (String.ofList value)
              pure (given, none)
      | none =>
          match flagOfLetter c with
          | none => .error .misuse
          | some name =>
              match flag g name given with
              | .error e => .error e
              | .ok given => readLetters g rest given

def isDashed (argument : String) : Bool :=
  match argument.toList with
  | '-' :: _ :: _ => true
  | _ => false

def readDashed (g : Grammar) (argument : String) (given : Given) : Except Stop Reading :=
  match argument.toList with
  | '-' :: '-' :: text => readLong g text given
  | _ :: letters => readLetters g letters given
  | [] => .error .misuse

def readOperand (g : Grammar) (argument : String) (given : Given) : Except Stop Given :=
  match g.operand, given.operand with
  | some accepts, none =>
      if accepts argument then .ok { given with operand := some argument } else .error .misuse
  | _, _ => .error .misuse

/--
Reads the arguments of a command. An option whose value is still missing takes the next argument,
unless that is written like an option. After two hyphens there are only operands.
-/
def readArguments (g : Grammar) : List String -> Reading -> Except Stop Given
  | [], (given, none) => .ok given
  | [], (_, some _) => .error .misuse
  | argument :: rest, (given, pending) =>
      if isDashed argument then
        match pending with
        | some _ => .error .misuse
        | none =>
            if argument = "--" then rest.foldlM (fun given a => readOperand g a given) given
            else
              match readDashed g argument given with
              | .error e => .error e
              | .ok reading => readArguments g rest reading
      else
        let given :=
          match pending with
          | some o => given.set o argument
          | none => readOperand g argument given
        match given with
        | .error e => .error e
        | .ok given => readArguments g rest (given, none)

def isPathText (s : String) : Bool := s != ""

def pathOption (name : String) : OptionRule := ⟨name, none, false, isPathText⟩

def formatOfWord : String -> Option ReportFormat
  | "text" => some .text
  | "json" => some .json
  | _ => none

def formatOption : OptionRule := ⟨"format", some 'f', false, fun s => (formatOfWord s).isSome⟩

def Given.format (g : Given) : ReportFormat :=
  ((g.value? "format").bind formatOfWord).getD .text

def Given.root (g : Given) : String := (g.value? "root").getD "."

/-- A command by its word: what can be given for it, and what it then asks for. -/
structure CommandRule where
  word : String
  grammar : Grammar
  command? : Given -> Option Command

def grammarOf (options : List OptionRule) (operand : Option (String -> Bool)) : Grammar :=
  ⟨options, operand, false⟩

def commandRules : List CommandRule := [
  ⟨"check-log", grammarOf [pathOption "ignore-file", formatOption] (some isPathText),
    fun g => g.operand.map fun log => .checkLog log (g.value? "ignore-file") g.format⟩,
  ⟨"server-log",
    grammarOf [pathOption "home", pathOption "ignore-file", formatOption] none,
    fun g => some (.serverLog (g.value? "home") (g.value? "ignore-file") g.format)⟩,
  ⟨"wait", grammarOf [pathOption "root"] (some isPathText),
    fun g => g.operand.map fun log => .wait log g.root⟩,
  ⟨"measures",
    grammarOf [⟨"expect", none, true, fun _ => true⟩, ⟨"test-metrics", none, false, fun _ => true⟩,
      pathOption "root"] (some fun _ => true),
    fun g => g.operand.map fun project =>
      .measures project (g.values "expect") (g.value? "test-metrics") g.root⟩,
  ⟨"run", grammarOf [pathOption "home", pathOption "root"] (some isPathText),
    fun g => g.operand.map fun scenario => .run scenario (g.value? "home") g.root⟩,
  ⟨"cleanup-logs", grammarOf [pathOption "home"] none,
    fun g => some (.cleanupLogs (g.value? "home"))⟩,
  ⟨"dump-logs", grammarOf [pathOption "home"] none,
    fun g => some (.dumpLogs (g.value? "home"))⟩]

def commandRule? (word : String) : Option CommandRule :=
  commandRules.find? fun rule => rule.word == word

def outerGrammar : Grammar := ⟨[], none, true⟩

def helpWord : String := "help"

def readHelp : List String -> Stop
  | [] => .help
  | [word] => if word = helpWord ∨ (commandRule? word).isSome then .help else .misuse
  | _ => .misuse

def CommandRule.read (rule : CommandRule) (arguments : List String) :
    Except Stop (Given × Command) :=
  match readArguments rule.grammar arguments (.nothing, none) with
  | .error e => .error e
  | .ok given =>
      match rule.command? given with
      | none => .error .misuse
      | some command => if given.isConsistent then .ok (given, command) else .error .misuse

def readInvocation : List String -> Given -> Except Stop Invocation
  | [], _ => .error .misuse
  | argument :: rest, outer =>
      if isDashed argument then
        match readDashed outerGrammar argument outer with
        | .error e => .error e
        | .ok (outer, _) => readInvocation rest outer
      else if argument = helpWord then .error (readHelp rest)
      else
        match commandRule? argument with
        | none => .error .misuse
        | some rule =>
            match rule.read rest with
            | .error e => .error e
            | .ok (given, command) =>
                if outer.isConsistent then .ok ⟨outer.quiet || given.quiet, command⟩
                else .error .misuse

end CommandLine

def Invocation.ofArguments (arguments : List String) : Except CommandLine.Stop Invocation :=
  CommandLine.readInvocation arguments .nothing

end AnalysisHarness
