import AnalysisHarness.Text.Blank
import AnalysisHarness.Text.Search
import AnalysisHarness.Url.Basic

/-!
# Reading addresses

Texts are read as generously as browsers read them. A text that has no scheme, no host where one is
needed, or a host or port number that cannot be meant is no address.
-/

namespace AnalysisHarness
namespace Url

open Text

/-- What is dropped from the ends of the text. -/
def isMargin (c : Char) : Bool := c.toNat ≤ 32

/-- What is dropped everywhere. -/
def isBreak (c : Char) : Bool := c == '\t' || c == '\n' || c == '\r'

def significant (text : String) : List Char :=
  (dropEndWhile isMargin (text.toList.dropWhile isMargin)).filter fun c => !isBreak c

def isSchemeChar (c : Char) : Bool := c.isAlphanum || c == '+' || c == '-' || c == '.'

def readScheme (cs : List Char) : Option (String × List Char) :=
  let scheme := cs.takeWhile isSchemeChar
  match scheme, cs.dropWhile isSchemeChar with
  | first :: _, ':' :: rest =>
      if first.isAlpha then some (String.ofList (scheme.map Char.toLower), rest) else none
  | _, _ => none

def cutAt (mark : Char) (cs : List Char) : List Char × Option (List Char) :=
  match splitFirst [mark] cs with
  | none => (cs, none)
  | some (before, after) => (before, some after)

def isSlash (web : Bool) (c : Char) : Bool := c == '/' || (web && c == '\\')

def isDot (segment : String) : Bool := [".", "%2e"].contains segment.toLower

def isDoubleDot (segment : String) : Bool :=
  ["..", ".%2e", "%2e.", "%2e%2e"].contains segment.toLower

/-- The segments without those that stand for places, after those that went before, in reverse. -/
def resolve (done : List String) : List String -> List String
  | [] => done.reverse
  | [last] =>
      if isDoubleDot last then ("" :: done.drop 1).reverse
      else if isDot last then ("" :: done).reverse
      else (last :: done).reverse
  | segment :: segments =>
      if isDoubleDot segment then resolve (done.drop 1) segments
      else if isDot segment then resolve done segments
      else resolve (segment :: done) segments

def readSteps (web : Bool) (cs : List Char) : List String :=
  let cs := cs.map fun c => if isSlash web c then '/' else c
  resolve [] ((segments '/' cs).map (escape inPath))

def readPort (scheme : String) (cs : List Char) : Option (Option Nat) :=
  let portNumber := cs.foldl (fun n c => n * 10 + Unicode.hexValue c) 0
  if !cs.all Char.isDigit ∨ 65535 < portNumber then none
  else if cs.isEmpty ∨ some portNumber = usualPort scheme then some none
  else some (some portNumber)

/-- What is written for the host, and what stands after it. Colons in brackets belong to it. -/
def splitHost (inBrackets : Bool) : List Char -> List Char × List Char
  | [] => ([], [])
  | c :: rest =>
      if c = ':' ∧ !inBrackets then ([], c :: rest)
      else
        let inBrackets := if c = '[' then true else if c = ']' then false else inBrackets
        let (host, rest) := splitHost inBrackets rest
        (c :: host, rest)

def afterLast? (mark : Char) (cs : List Char) : Option (List Char) :=
  if cs.contains mark then (segments mark cs).getLast? else none

/-- The host and the port number. A name to sign on with is left out. -/
def readAuthority (scheme : String) (cs : List Char) : Option (Host × Option Nat) := do
  let signedOn := (afterLast? '@' cs).isSome
  let (name, rest) := splitHost false ((afterLast? '@' cs).getD cs)
  let web := isWebScheme scheme
  if name.isEmpty ∧ (web ∨ signedOn ∨ !rest.isEmpty) then none
  else
    let host ← if web then Host.read name else Host.readVerbatim name
    let portNumber ← readPort scheme (rest.drop 1)
    some (host, portNumber)

def routeAfterHost (web : Bool) (cs : List Char) : Route :=
  match cs with
  | [] => .steps (if web then [""] else [])
  | _ :: rest => .steps (readSteps web rest)

def readHierarchy (scheme : String) (cs : List Char) :
    Option (Option Host × Option Nat × Route) := do
  let web := isWebScheme scheme
  let authority := cs.takeWhile fun c => !isSlash web c
  let path := cs.dropWhile fun c => !isSlash web c
  let (host, portNumber) ← readAuthority scheme authority
  some (some host, portNumber, routeAfterHost web path)

def readFileHost (cs : List Char) : Option Host :=
  if cs.isEmpty then some (.name "")
  else
    match Host.read cs with
    | some (.name "localhost") => some (.name "")
    | host => host

def fileRoute (cs : List Char) : Route :=
  let cs := match cs with
    | c :: rest => if isSlash true c then rest else c :: rest
    | [] => []
  let steps := (readSteps true cs).dropWhile (· == "")
  .steps (if steps.isEmpty then [""] else steps)

def readFile (cs : List Char) : Option (Option Host × Option Nat × Route) :=
  match cs with
  | a :: b :: rest =>
      if isSlash true a ∧ isSlash true b then do
        let host ← readFileHost (rest.takeWhile fun c => !isSlash true c)
        some (some host, none, fileRoute (rest.dropWhile fun c => !isSlash true c))
      else some (some (.name ""), none, fileRoute cs)
  | _ => some (some (.name ""), none, fileRoute cs)

def readBody (scheme : String) (cs : List Char) :
    Option (Option Host × Option Nat × Route) :=
  if scheme = "file" then readFile cs
  else if isWebScheme scheme then readHierarchy scheme (cs.dropWhile (isSlash true))
  else
    match cs with
    | '/' :: '/' :: rest => readHierarchy scheme rest
    | '/' :: rest => some (none, none, .steps (readSteps false rest))
    | _ => some (none, none, .verbatim (escape isControl cs))

def read (text : String) : Option Url := do
  let (scheme, rest) ← readScheme (significant text)
  let (rest, fragment) := cutAt '#' rest
  let (body, query) := cutAt '?' rest
  let (host, portNumber, route) ← readBody scheme body
  let querySet := if isWebScheme scheme then inWebQuery else inQuery
  some ⟨scheme, host, portNumber, route, query.map (escape querySet),
    fragment.map (escape inFragment)⟩

end Url
end AnalysisHarness
