import AnalysisHarness.Decimal.Literal
import AnalysisHarness.Pattern.Matching
import AnalysisHarness.Pattern.Reader
import AnalysisHarness.Shell.Edit
import AnalysisHarness.Shell.Print
import AnalysisHarness.Shell.Utility

/-!
# Filters

The programs that read lines, from files or from their input, and print some of them, change them,
count them or put them in order.
-/

namespace AnalysisHarness
namespace Shell

open Text

def unreadable (program : String) (s : State) (path : String) (e : IoError) : State :=
  let isDirectory := e == .isDirectory
  let (text, status) : String × Nat :=
    match program with
    | "sed" =>
        if isDirectory then ("read error on " ++ path, 4) else ("can't read " ++ path, 2)
    | "sort" =>
        ((if isDirectory then "read failed: " else "cannot read: ") ++ path, 2)
    | "head" => (opening isDirectory, 1)
    | "tail" => (opening isDirectory, 1)
    | "grep" => (path, 2)
    | _ => (path, 1)
  (s.fail (program ++ ": " ++ text ++ ": " ++ reasonOf e)).withStatus status
where
  opening (isDirectory : Bool) : String :=
    if isDirectory then "error reading " ++ quoteName path
    else "cannot open " ++ quoteName path ++ " for reading"

def inputsOf (program : String) (s : State) (paths : List String) :
    List (String × Bytes) × State :=
  if paths.isEmpty then
    let (bytes, s) := s.drain 0
    ([("", bytes)], s)
  else
    paths.foldl
      (fun (inputs, s) path =>
        if path = "-" then
          let (bytes, s) := s.drain 0
          (inputs ++ [(path, bytes)], s)
        else
          match s.view.read path with
          | .ok bytes => (inputs ++ [(path, bytes)], s)
          | .error e => (inputs, unreadable program s path e))
      ([], s)

def inputOf (program : String) (s : State) (paths : List String) : Bytes × State :=
  let (inputs, s) := inputsOf program s paths
  (inputs.flatMap Prod.snd, s)

def splitScripts : List String -> List String × List String
  | "-e" :: script :: rest =>
      let (scripts, others) := splitScripts rest
      (script :: scripts, others)
  | a :: rest =>
      let (scripts, others) := splitScripts rest
      (scripts, a :: others)
  | [] => ([], [])

def readScripts (extended : Bool) : Nat -> List String -> Except String (List EditRule)
  | _, [] => .ok []
  | number, script :: scripts => do
      let cs := script.toList
      match readScript extended (cs.length + 1) cs with
      | .ok rules => do
          let others ← readScripts extended (number + 1) scripts
          pure (rules ++ others)
      | .error e =>
          .error ("-e expression #" ++ toString number ++ ", char " ++
            toString (cs.length - e.rest.length) ++ ": " ++ e.reason)

def editInPlace (change : Bytes -> Bytes) (s : State) (path : String) : State :=
  match s.view.read path with
  | .error .isDirectory =>
      (s.fail ("sed: couldn't edit " ++ path ++ ": not a regular file")).withStatus 4
  | .error e => unreadable "sed" s path e
  | .ok bytes =>
      match s.view.write path (change bytes) with
      | .ok w => s.withFiles w
      | .error e => unreadable "sed" s path e

def edit (arguments : List String) (s : State) : State :=
  let (scripts, others) := splitScripts arguments
  let (options, paths) := splitOptions others
  let (scripts, paths) :=
    if scripts.isEmpty then (paths.take 1, paths.drop 1) else (scripts, paths)
  if scripts.isEmpty then s.withStatus 1
  else
    match readScripts (hasLetter options 'E' || hasLetter options 'r') 1 scripts with
    | .error reason => s.fail ("sed: " ++ reason)
    | .ok rules =>
        let change (bytes : Bytes) : Bytes :=
          encode (String.ofList
            (editText rules (hasLetter options 'n') (decodeLenient bytes).toList))
        if hasLetter options 'i' then forEachArgument (editInPlace change) paths s
        else
          let (bytes, s) := inputOf "sed" s paths
          s.emit 1 (change bytes)

structure Amount where
  count : Nat
  inBytes : Bool
  fromStart : Bool

def readAmount : List String -> Amount × List String
  | a :: rest =>
      let amount (inBytes : Bool) (digits : List Char) : Amount :=
        match digits with
        | '+' :: digits => ⟨Decimal.digitsValue digits, inBytes, true⟩
        | _ => ⟨Decimal.digitsValue digits, inBytes, false⟩
      match a.toList, rest with
      | ['-', 'n'], n :: rest => (amount false n.toList, rest)
      | ['-', 'c'], n :: rest => (amount true n.toList, rest)
      | '-' :: 'n' :: digits, _ => (amount false digits, rest)
      | '-' :: 'c' :: digits, _ => (amount true digits, rest)
      | '-' :: d :: digits, _ =>
          if d.isDigit then (amount false (d :: digits), rest)
          else (⟨10, false, false⟩, a :: rest)
      | _, _ => (⟨10, false, false⟩, a :: rest)
  | [] => (⟨10, false, false⟩, [])

def Amount.select (amount : Amount) (last : Bool) (xs : List α) : List α :=
  if !last then xs.take amount.count
  else if amount.fromStart then xs.drop (amount.count - 1)
  else xs.drop (xs.length - amount.count)

def someLines (last : Bool) (arguments : List String) (s : State) : State :=
  let (amount, paths) := readAmount arguments
  let (bytes, s) := inputOf (if last then "tail" else "head") s paths
  if amount.inBytes then s.emit 1 (amount.select last bytes)
  else s.emit 1 (amount.select last (pieces 10 bytes)).flatten

def countUp (arguments : List String) (s : State) : State :=
  let (low, high) :=
    match arguments with
    | [high] => (1, high.toNat?.getD 0)
    | low :: high :: _ => (low.toNat?.getD 1, high.toNat?.getD 0)
    | [] => (1, 0)
  let numbers := (List.range (high + 1 - low)).map fun i => toString (low + i) ++ "\n"
  s.say 1 (String.join numbers)

/-- The pattern in extended form that one in basic form means. -/
def extended : List Char -> List Char
  | '\\' :: c :: rest =>
      if ['(', ')', '|', '+', '?', '\x7b', '\x7d'].contains c then c :: extended rest
      else '\\' :: c :: extended rest
  | c :: rest =>
      if ['(', ')', '|', '+', '?', '\x7b', '\x7d'].contains c then '\\' :: c :: extended rest
      else c :: extended rest
  | [] => []

def verbatim (cs : List Char) : List Char :=
  cs.flatMap fun c => if c.isAlphanum ∨ 127 < c.toNat ∨ c = ' ' then [c] else ['\\', c]

def lineTest (options : List String) (pattern : String) : Option (List Char -> Bool) :=
  let cs := pattern.toList
  let cs :=
    if hasLetter options 'F' then verbatim cs
    else if hasLetter options 'E' then cs
    else extended cs
  let group := "(?:".toList ++ cs ++ ")".toList
  let group :=
    if hasLetter options 'x' then '^' :: group ++ ['$']
    else if hasLetter options 'w' then "\\b".toList ++ group ++ "\\b".toList
    else group
  let text := if hasLetter options 'i' then "(?i)".toList ++ group else group
  (Pattern.Node.read text).toOption.map fun node line => node.occursIn line

def foundLines (fits : List Char -> Bool) (bytes : Bytes) : List (Nat × List Char) :=
  let lines := (pieces '\n' (decodeLenient bytes).toList).map (dropEndWhile (· == '\n'))
  ((List.range lines.length).zip lines).filter fun entry => fits entry.2

def search (arguments : List String) (s : State) : State :=
  let (options, others) := splitOptions arguments
  match others with
  | [] => s.withStatus 2
  | pattern :: paths =>
      match lineTest options pattern with
      | none => (s.fail "grep: Invalid regular expression").withStatus 2
      | some fits =>
          let fits (line : List Char) : Bool := fits line != hasLetter options 'v'
          let (inputs, s) := inputsOf "grep" (s.withStatus 0) paths
          let failed := s.status != 0
          let found := inputs.map fun (path, bytes) => (path, foundLines fits bytes)
          let label (path : String) : String :=
            if 1 < paths.length && !hasLetter options 'h' then path ++ ":" else ""
          let show1 (path : String) (lines : List (Nat × List Char)) : String :=
            if hasLetter options 'q' then ""
            else if hasLetter options 'l' then if lines.isEmpty then "" else path ++ "\n"
            else if hasLetter options 'c' then label path ++ toString lines.length ++ "\n"
            else
              String.join (lines.map fun (n, line) =>
                label path ++ (if hasLetter options 'n' then toString (n + 1) ++ ":" else "") ++
                  String.ofList line ++ "\n")
          let s := s.say 1 (String.join (found.map fun (path, lines) => show1 path lines))
          let any := found.any fun entry => !entry.2.isEmpty
          s.withStatus (if failed then 2 else if any then 0 else 1)

def padLeft (width : Nat) (text : String) : String :=
  String.ofList (List.replicate (width - text.length) ' ') ++ text

def wordCount (cs : List Char) : Nat :=
  (cs.foldl
    (fun (n, inWord) c =>
      if isBlank c then (n, false) else if inWord then (n, true) else (n + 1, true))
    (0, false)).1

def countsOf (options : List String) (bytes : Bytes) : List Nat :=
  let cs := (decodeLenient bytes).toList
  let asked := options.flatMap fun o => o.toList.drop 1
  let letters := if asked.isEmpty then ['l', 'w', 'c'] else asked
  let all := [('l', bytes.count 10), ('w', wordCount cs), ('m', cs.length), ('c', bytes.length)]
  (all.filter fun entry => letters.contains entry.1).map Prod.snd

def count (arguments : List String) (s : State) : State :=
  let (options, paths) := splitOptions arguments
  let (inputs, s) := inputsOf "wc" s paths
  let rows := inputs.map fun (path, bytes) => (path, countsOf options bytes)
  let total := countsOf options (inputs.flatMap Prod.snd)
  let rows := if 1 < paths.length then rows ++ [("total", total)] else rows
  let width :=
    if total.length = 1 ∧ paths.length ≤ 1 then 1
    else if paths.isEmpty then 7
    else (toString (inputs.flatMap Prod.snd).length).length
  s.say 1 (String.join (rows.map fun (path, counts) =>
    String.intercalate " " (counts.map fun n => padLeft width (toString n)) ++
      (if path = "" then "" else " " ++ path) ++ "\n"))

def bareLines (bytes : Bytes) : List (List Char) :=
  (pieces '\n' (decodeLenient bytes).toList).map (dropEndWhile (· == '\n'))

def sayLines (s : State) (lines : List (List Char)) : State :=
  s.say 1 (String.ofList (lines.flatMap (· ++ ['\n'])))

def leadingNumber (line : List Char) : Int :=
  match line.dropWhile isBlank with
  | '-' :: rest => -(Decimal.digitsValue (rest.takeWhile Char.isDigit) : Int)
  | rest => Decimal.digitsValue (rest.takeWhile Char.isDigit)

def dropRepeated : List (List Char) -> List (List Char)
  | a :: b :: rest => if a = b then dropRepeated (b :: rest) else a :: dropRepeated (b :: rest)
  | rest => rest

def sortLines (arguments : List String) (s : State) : State :=
  let (options, paths) := splitOptions arguments
  let (bytes, s) := inputOf "sort" s paths
  let before (a b : List Char) : Bool :=
    if hasLetter options 'n' && leadingNumber a != leadingNumber b then
      decide (leadingNumber a < leadingNumber b)
    else !decide (b < a)
  let sorted := (bareLines bytes).mergeSort before
  let sorted := if hasLetter options 'r' then sorted.reverse else sorted
  sayLines s (if hasLetter options 'u' then dropRepeated sorted else sorted)

def countRepeated (lines : List (List Char)) : List (Nat × List Char) :=
  (lines.foldl
    (fun groups line =>
      match groups with
      | (n, other) :: groups =>
          if other = line then (n + 1, other) :: groups else (1, line) :: (n, other) :: groups
      | [] => [(1, line)])
    []).reverse

def uniqueLines (arguments : List String) (s : State) : State :=
  let (options, paths) := splitOptions arguments
  let (bytes, s) := inputOf "uniq" s paths
  let groups := countRepeated (bareLines bytes)
  let groups := if hasLetter options 'd' then groups.filter fun g => 1 < g.1 else groups
  sayLines s (groups.map fun (n, line) =>
    if hasLetter options 'c' then (padLeft 7 (toString n) ++ " ").toList ++ line else line)

def readSet : Nat -> List Char -> List Char
  | 0, _ => []
  | fuel + 1, cs =>
      let span (low high : Nat) : List Char :=
        (List.range (high + 1 - low)).map fun i => Char.ofNat (low + i)
      match cs with
      | [] => []
      | '[' :: ':' :: rest =>
          let name := String.ofList (rest.takeWhile (· != ':'))
          let after := (rest.dropWhile (· != ':')).drop 2
          (match name with
          | "upper" => span 65 90
          | "lower" => span 97 122
          | "digit" => span 48 57
          | "alpha" => span 65 90 ++ span 97 122
          | "alnum" => span 48 57 ++ span 65 90 ++ span 97 122
          | "space" => span 9 13 ++ [' ']
          | "blank" => ['\t', ' ']
          | _ => []) ++ readSet fuel after
      | '\\' :: c :: rest =>
          if isOctal c then
            let digits := takeOctal (c :: rest)
            Char.ofNat (octalByte digits).toNat :: readSet fuel ((c :: rest).drop digits.length)
          else
            (match letterByte? c with
            | some b => Char.ofNat b.toNat
            | none => c) :: readSet fuel rest
      | a :: '-' :: b :: rest => span a.toNat b.toNat ++ readSet fuel rest
      | a :: rest => a :: readSet fuel rest

def placeIn (set : List Char) (c : Char) : Option Nat := set.findIdx? (· == c)

def transliterate (arguments : List String) (s : State) : State :=
  let (options, sets) := splitOptions arguments
  let sets := sets.map fun text => readSet (text.length + 1) text.toList
  let (bytes, s) := s.drain 0
  let cs := (decodeLenient bytes).toList
  let first := sets.head?.getD []
  let isMember (c : Char) : Bool :=
    first.contains c != (hasLetter options 'c' || hasLetter options 'C')
  let changed :=
    if hasLetter options 'd' then cs.filter (!isMember ·)
    else
      match (sets.drop 1).head? with
      | none => cs
      | some second =>
          cs.map fun c =>
            if isMember c then
              (second[(placeIn first c).getD second.length]? <|> second.getLast?).getD c
            else c
  let squeezed :=
    if hasLetter options 's' then
      let set := (sets.getLast?).getD []
      (changed.foldl
        (fun done c => if done.head? = some c ∧ set.contains c then done else c :: done)
        []).reverse
    else changed
  s.say 1 (String.ofList squeezed)

def duplicate (arguments : List String) (s : State) : State :=
  let (options, paths) := splitOptions arguments
  let (bytes, s) := s.drain 0
  let write (s : State) (path : String) : State :=
    let w := s.view
    match if hasLetter options 'a' then w.append path bytes else w.write path bytes with
    | .ok w => s.withFiles w
    | .error e => s.fail ("tee: " ++ path ++ ": " ++ reasonOf e)
  let s := forEachArgument write paths s
  s.emit 1 bytes

/-- The ranges of places that a list names; an open end reaches as far as there are places. -/
def readPlaces (text : List Char) : List (Nat × Option Nat) :=
  (segments ',' text).map fun range =>
    let value (digits : List Char) : Nat := Decimal.digitsValue digits
    match segments '-' range with
    | [low, []] => (value low, none)
    | [[], high] => (1, some (value high))
    | [low, high] => (value low, some (value high))
    | _ => (value range, some (value range))

def atPlaces (places : List (Nat × Option Nat)) (xs : List α) : List α :=
  (((List.range xs.length).zip xs).filter fun (i, _) =>
    places.any fun (low, high) => decide (low ≤ i + 1) && high.all (i + 1 ≤ ·)).map Prod.snd

def readValues (letters : List Char) : List String -> List (Char × List Char) × List String
  | [] => ([], [])
  | [a] =>
      match a.toList with
      | '-' :: c :: value => if letters.contains c then ([(c, value)], []) else ([], [a])
      | _ => ([], [a])
  | a :: b :: rest =>
      match a.toList with
      | ['-', c] =>
          if letters.contains c then
            let (values, others) := readValues letters rest
            ((c, b.toList) :: values, others)
          else
            let (values, others) := readValues letters (b :: rest)
            (values, a :: others)
      | '-' :: c :: value =>
          let (values, others) := readValues letters (b :: rest)
          if letters.contains c then ((c, value) :: values, others) else (values, a :: others)
      | _ =>
          let (values, others) := readValues letters (b :: rest)
          (values, a :: others)

def cutLines (arguments : List String) (s : State) : State :=
  let (values, others) := readValues ['d', 'f', 'c', 'b'] arguments
  let given (c : Char) : Option (List Char) := (values.find? fun v => v.1 == c).map Prod.snd
  let (bytes, s) := inputOf "cut" s (splitOptions others).2
  let mark := ((given 'd').bind List.head?).getD '\t'
  let cutLine (line : List Char) : List Char :=
    match given 'f', given 'c' <|> given 'b' with
    | some list, _ =>
        if line.contains mark then
          joinSegments [mark] (atPlaces (readPlaces list) (segments mark line))
        else line
    | none, some list => atPlaces (readPlaces list) line
    | none, none => line
  sayLines s ((bareLines bytes).map cutLine)

def printVariables (names : List String) (s : State) : State :=
  let vars := s.environment
  if names.isEmpty then
    s.say 1 (String.join (vars.map fun v => v.1 ++ "=" ++ v.2 ++ "\n"))
  else
    let values := names.filterMap fun name => vars.find? name
    (s.say 1 (String.join (values.map (· ++ "\n")))).withStatus
      (if values.length = names.length then 0 else 1)

def runFilter? (name : String) (arguments : List String) (s : State) : Option State :=
  match name with
  | "sed" => some (edit arguments s)
  | "head" => some (someLines false arguments s)
  | "tail" => some (someLines true arguments s)
  | "seq" => some (countUp arguments s)
  | "grep" => some (search arguments s)
  | "egrep" => some (search ("-E" :: arguments) s)
  | "fgrep" => some (search ("-F" :: arguments) s)
  | "wc" => some (count arguments s)
  | "sort" => some (sortLines arguments s)
  | "uniq" => some (uniqueLines arguments s)
  | "tr" => some (transliterate arguments s)
  | "tee" => some (duplicate arguments s)
  | "cut" => some (cutLines arguments s)
  | "env" => if arguments.isEmpty then some (printVariables [] s) else none
  | "printenv" => some (printVariables arguments s)
  | _ => none

end Shell
end AnalysisHarness
