import AnalysisHarness.Unicode.Age
import AnalysisHarness.Unicode.BinaryProperty
import AnalysisHarness.Unicode.Category
import AnalysisHarness.Unicode.CharClass
import AnalysisHarness.Unicode.Script
import AnalysisHarness.Unicode.ScriptExtension
import AnalysisHarness.Unicode.Segmentation

/-!
# Properties of characters by name

Names are compared loosely: case, blanks, hyphens, underscores and a leading "is" do not count.
A name alone is that of a binary property, a general category or a script, looked for in this
order; a name with a value asks for one value of a property that has several.
-/

namespace AnalysisHarness
namespace Unicode

/-- A name as it is compared: lower-case ASCII without blanks, hyphens, underscores and "is". -/
def looseName (name : List Char) : String :=
  let kept (cs : List Char) : List Char :=
    (cs.filter fun c => c.toNat < 128 && c != ' ' && c != '_' && c != '-').map Char.toLower
  match name with
  | i :: s :: rest =>
      if i.toLower = 'i' ∧ s.toLower = 's' then
        match kept rest with
        | ['c'] => "isc"
        | short => String.ofList short
      else String.ofList (kept name)
  | _ => String.ofList (kept name)

def categoryGroups : List (List String × List String) := [
  (["l", "letter"], ["lu", "ll", "lt", "lm", "lo"]),
  (["lc", "casedletter"], ["lu", "ll", "lt"]),
  (["m", "mark", "combiningmark"], ["mn", "mc", "me"]),
  (["n", "number"], ["nd", "nl", "no"]),
  (["p", "punctuation", "punct"], ["pc", "pd", "ps", "pe", "pi", "pf", "po"]),
  (["s", "symbol"], ["sm", "sc", "sk", "so"]),
  (["z", "separator"], ["zs", "zl", "zp"])]

def basicCategory (name : String) : CharClass :=
  match NamedTable.find? generalCategories name with
  | some ranges => .table ranges
  | none => .none

def assigned : CharClass :=
  .unionAll (generalCategories.map fun t => .table t.codes)

def category? (name : String) : Option CharClass :=
  if name = "any" then some (.table [(0, 0x10FFFF)])
  else if name = "ascii" then some (.table [(0, 0x7F)])
  else if name = "assigned" then some assigned
  else if name = "cn" ∨ name = "unassigned" then some (.compl assigned)
  else if name = "c" ∨ name = "other" then
    some (.union (.compl assigned) (.unionAll (["cc", "cf", "co"].map basicCategory)))
  else
    match categoryGroups.find? fun group => group.1.contains name with
    | some group => some (.unionAll (group.2.map basicCategory))
    | none => (NamedTable.find? generalCategories name).map .table

def script? (name : String) : Option CharClass :=
  (NamedTable.find? scripts name).map .table

def binaryProperty? (name : String) : Option CharClass :=
  (NamedTable.find? binaryProperties name).map .table

/-- The code points assigned up to a version: its own table and those of all versions before. -/
def age? (name : String) : Option CharClass :=
  if ages.any fun t => t.names.contains name then
    let older := ages.takeWhile fun t => !t.names.contains name
    let all := older ++ (ages.filter fun t => t.names.contains name)
    some (.unionAll (all.map fun t => .table t.codes))
  else none

def namedClass? (name : List Char) : Option CharClass :=
  let loose := looseName name
  let binary :=
    if loose = "cf" ∨ loose = "sc" ∨ loose = "lc" then none else binaryProperty? loose
  binary <|> category? loose <|> script? loose

def valuedClass? (name value : List Char) : Option CharClass :=
  let property := looseName name
  let wanted := looseName value
  if property = "gc" ∨ property = "generalcategory" then category? wanted
  else if property = "sc" ∨ property = "script" then script? wanted
  else if property = "scx" ∨ property = "scriptextensions" then
    (NamedTable.find? scriptExtensions wanted).map .table
  else if property = "age" then age? wanted
  else if property = "gcb" ∨ property = "graphemeclusterbreak" then
    (NamedTable.find? clusterBreaks wanted).map .table
  else if property = "wb" ∨ property = "wordbreak" then
    (NamedTable.find? wordBreaks wanted).map .table
  else if property = "sb" ∨ property = "sentencebreak" then
    (NamedTable.find? sentenceBreaks wanted).map .table
  else none

def decimalDigit : CharClass := basicCategory "nd"

def whiteSpace : CharClass := (binaryProperty? "whitespace").getD .none

def wordCharacter : CharClass :=
  .unionAll [(binaryProperty? "alphabetic").getD .none, basicCategory "mn", basicCategory "mc",
    basicCategory "me", decimalDigit, basicCategory "pc",
    (binaryProperty? "joincontrol").getD .none]

def alphabetic : CharClass := (binaryProperty? "alphabetic").getD .none

def alphanumeric : CharClass :=
  .unionAll [alphabetic, basicCategory "nd", basicCategory "nl", basicCategory "no"]

end Unicode
end AnalysisHarness
