import AnalysisHarness.Toml.Value

/-!
# Tables in the making

While a document is read, its tables remember how they came about, for that decides what may still
be added to them: a table that was only mentioned on the way to another one can be given a header
later, one made by dotted keys can be extended by dotted keys only, and anything else is complete.
-/

namespace AnalysisHarness
namespace Toml

open Text

inductive Draft where
  | value (v : Value)
  /-- A table; whether it was only mentioned so far, and whether by a dotted key. -/
  | table (mentioned dotted : Bool) (entries : List (String × Draft))
  | tables (elements : List (List (String × Draft)))
  deriving Inhabited

abbrev Entries := Keyed Draft

/--
Puts a value under a key of the table that a dotted key leads to. `dotted` tells how the table was
made, `own` whether it is the one that the key was written in.
-/
def Draft.insert (dotted own : Bool) (key : String) (v : Value) :
    List String -> Entries -> Except Fault Entries
  | [], entries =>
      if dotted = own then .error .duplicateKey
      else if (entries.find? key).isSome then .error .duplicateKey
      else .ok (entries.put key (.value v))
  | name :: path, entries =>
      match entries.find? name with
      | none => do
          let inner ← insert true false key v path []
          pure (entries.put name (.table true true inner))
      | some (.value _) => .error .duplicateKey
      | some (.tables []) => .error .duplicateKey
      | some (.tables (last :: before)) => do
          let inner ← insert false false key v path last
          pure (entries.put name (.tables (inner :: before)))
      | some (.table mentioned dotted inner) =>
          if !mentioned then .error .duplicateKey
          else do
            let inner ← insert dotted false key v path inner
            pure (entries.put name (.table mentioned dotted inner))

/-- Changes the table that the names of a header lead to, mentioning those that are missing. -/
def Draft.update (change : Entries -> Except Fault (Entries × α)) :
    List String -> Entries -> Except Fault (Entries × α)
  | [], entries => change entries
  | name :: path, entries =>
      match entries.find? name with
      | none => do
          let (inner, a) ← update change path []
          pure (entries.put name (.table true false inner), a)
      | some (.value _) => .error .duplicateKey
      | some (.tables []) => .error .duplicateKey
      | some (.tables (last :: before)) => do
          let (inner, a) ← update change path last
          pure (entries.put name (.tables (inner :: before)), a)
      | some (.table mentioned dotted inner) => do
          let (inner, a) ← update change path inner
          pure (entries.put name (.table mentioned dotted inner), a)

mutual

def Draft.finish : Draft -> Value
  | .value v => v
  | .table _ _ entries => .table (Draft.finishEntries entries)
  | .tables elements => .array (Draft.finishElements elements).reverse

def Draft.finishEntries : List (String × Draft) -> List (String × Value)
  | [] => []
  | (key, draft) :: entries => (key, Draft.finish draft) :: Draft.finishEntries entries

def Draft.finishElements : List (List (String × Draft)) -> List Value
  | [] => []
  | entries :: elements => .table (Draft.finishEntries entries) :: Draft.finishElements elements

end

structure OpenTable where
  path : List String
  isElement : Bool
  entries : Entries

/-- A document in the making: the finished tables, and the one being read. -/
structure DraftDocument where
  root : Entries
  current : OpenTable

namespace DraftDocument

def start : DraftDocument := ⟨[], ⟨[], false, []⟩⟩

def insert (d : DraftDocument) (path : List String) (key : String) (v : Value) :
    Except Fault DraftDocument := do
  let entries ← Draft.insert false true key v path d.current.entries
  pure { d with current := { d.current with entries := entries } }

def place (table : OpenTable) (key : String) (parent : Entries) :
    Except Fault (Entries × Unit) :=
  if table.isElement then
    match parent.find? key with
    | some (.tables elements) => .ok (parent.put key (.tables (table.entries :: elements)), ())
    | _ => .error .duplicateKey
  else .ok (parent.put key (.table false false table.entries), ())

def finishCurrent (d : DraftDocument) : Except Fault Entries :=
  match d.current.path.getLast? with
  | none => .ok d.current.entries
  | some key => do
      let (root, _) ← Draft.update (place d.current key) d.current.path.dropLast d.root
      pure root

def takeOut (key : String) (parent : Entries) : Except Fault (Entries × Entries) :=
  match parent.find? key with
  | none => .ok (parent, [])
  | some (.table true false entries) => .ok (parent.filter (fun e => e.1 != key), entries)
  | some _ => .error .duplicateKey

def ensureArray (key : String) (parent : Entries) : Except Fault (Entries × Unit) :=
  match parent.find? key with
  | none => .ok (parent.put key (.tables []), ())
  | some (.tables _) => .ok (parent, ())
  | some _ => .error .duplicateKey

def openTable (d : DraftDocument) (path : List String) (key : String) :
    Except Fault DraftDocument := do
  let root ← d.finishCurrent
  let (root, entries) ← Draft.update (takeOut key) path root
  pure ⟨root, ⟨path ++ [key], false, entries⟩⟩

def openElement (d : DraftDocument) (path : List String) (key : String) :
    Except Fault DraftDocument := do
  let root ← d.finishCurrent
  let (root, _) ← Draft.update (ensureArray key) path root
  pure ⟨root, ⟨path ++ [key], true, []⟩⟩

def finish (d : DraftDocument) : Except Fault Value := do
  let root ← d.finishCurrent
  pure (.table (Draft.finishEntries root))

end DraftDocument

end Toml
end AnalysisHarness
