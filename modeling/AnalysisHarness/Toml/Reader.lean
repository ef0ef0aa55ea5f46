import AnalysisHarness.Toml.Draft
import AnalysisHarness.Toml.Number

/-!
# Reading TOML

A document is a sequence of lines: headers of tables, keys with values, comments and empty lines.
Arrays may go on over several lines, tables in braces may not.
-/

namespace AnalysisHarness
namespace Toml

open Text

/-- How deeply arrays and tables in braces may nest, and how many parts a key may have. -/
def depthLimit : Nat := 79

def isBare (c : Char) : Bool := c.isAlphanum || c == '-' || c == '_'

def readKeyPart (cs : List Char) : Except Fault (String × List Char) :=
  match cs with
  | '"' :: rest => do
      let (text, rest) ← readBasic (rest.length + 1) [] rest
      pure (String.ofList text, rest)
  | '\'' :: rest => do
      let (text, rest) ← readLiteral [] rest
      pure (String.ofList text, rest)
  | _ =>
      let bare := cs.takeWhile isBare
      if bare.isEmpty then .error .malformed
      else .ok (String.ofList bare, cs.dropWhile isBare)

def readKeyParts : Nat -> List Char -> Except Fault (List String × List Char)
  | 0, _ => .error .malformed
  | fuel + 1, cs => do
      let (part, rest) ← readKeyPart (skipSpace cs)
      match skipSpace rest with
      | '.' :: rest => do
          let (parts, rest) ← readKeyParts fuel rest
          pure (part :: parts, rest)
      | rest => pure ([part], rest)

structure KeyPath where
  path : List String
  last : String

def readKey (cs : List Char) : Except Fault (KeyPath × List Char) := do
  let (parts, rest) ← readKeyParts (cs.length + 1) cs
  if depthLimit < parts.length then .error .tooDeep
  else
    match parts.getLast? with
    | none => .error .malformed
    | some last => pure (⟨parts.dropLast, last⟩, rest)

def skipComment : List Char -> List Char
  | '#' :: rest => rest.dropWhile isPlain
  | cs => cs

/-- What follows blanks, line breaks and comments; each comment must end with its line. -/
def skipLines : Nat -> List Char -> Except Fault (List Char)
  | 0, cs => .ok cs
  | fuel + 1, cs =>
      match skipBlankLines cs with
      | '#' :: rest =>
          match rest.dropWhile isPlain with
          | [] => .ok []
          | rest =>
              match lineBreak? rest with
              | some rest => skipLines fuel rest
              | none => .error .malformed
      | rest => .ok rest

mutual

def readValue (depth : Nat) : Nat -> List Char -> Except Fault (Value × List Char)
  | 0, _ => .error .malformed
  | fuel + 1, cs =>
      match cs with
      | [] => .error .malformed
      | c :: rest =>
          if c = '"' ∨ c = '\'' then do
            let (text, rest) ← readText cs
            pure (.string text, rest)
          else if c = '[' then
            if depthLimit ≤ depth then .error .tooDeep
            else do
              let (items, rest) ← readItems (depth + 1) fuel rest
              pure (.array items, rest)
          else if c = '\x7b' then
            if depthLimit ≤ depth then .error .tooDeep
            else
              match skipSpace rest with
              | '\x7d' :: rest => .ok (.table [], rest)
              | rest => do
                  let (entries, rest) ← readEntries (depth + 1) fuel [] rest
                  pure (.table (Draft.finishEntries entries), rest)
          else
            match cs with
            | 't' :: 'r' :: 'u' :: 'e' :: rest => .ok (.boolean true, rest)
            | 'f' :: 'a' :: 'l' :: 's' :: 'e' :: rest => .ok (.boolean false, rest)
            | _ => readScalar cs

def readItems (depth : Nat) : Nat -> List Char -> Except Fault (List Value × List Char)
  | 0, _ => .error .malformed
  | fuel + 1, cs => do
      match (← skipLines (cs.length + 1) cs) with
      | ']' :: rest => pure ([], rest)
      | rest => do
          let (item, rest) ← readValue depth fuel rest
          match (← skipLines (rest.length + 1) rest) with
          | ',' :: rest => do
              let (items, rest) ← readItems depth fuel rest
              pure (item :: items, rest)
          | ']' :: rest => pure ([item], rest)
          | _ => .error .malformed

def readEntries (depth : Nat) : Nat -> Entries -> List Char ->
    Except Fault (Entries × List Char)
  | 0, _, _ => .error .malformed
  | fuel + 1, entries, cs => do
      let (key, rest) ← readKey cs
      match rest with
      | '=' :: rest => do
          let (value, rest) ← readValue depth fuel (skipSpace rest)
          let entries ← Draft.insert false true key.last value key.path entries
          match skipSpace rest with
          | ',' :: rest => readEntries depth fuel entries rest
          | '\x7d' :: rest => pure (entries, rest)
          | _ => .error .malformed
      | _ => .error .malformed

end

def endLine (cs : List Char) : Except Fault (List Char) :=
  match skipComment (skipSpace cs) with
  | [] => .ok []
  | rest =>
      match lineBreak? rest with
      | some rest => .ok rest
      | none => .error .malformed

def readLines : Nat -> DraftDocument -> List Char -> Except Fault DraftDocument
  | 0, _, _ => .error .malformed
  | fuel + 1, d, cs =>
      match skipSpace cs with
      | [] => .ok d
      | '#' :: rest => do
          let rest ← endLine ('#' :: rest)
          readLines fuel d rest
      | '[' :: '[' :: rest => do
          let (key, rest) ← readKey rest
          match rest with
          | ']' :: ']' :: rest => do
              let rest ← endLine rest
              let d ← d.openElement key.path key.last
              readLines fuel d rest
          | _ => .error .malformed
      | '[' :: rest => do
          let (key, rest) ← readKey rest
          match rest with
          | ']' :: rest => do
              let rest ← endLine rest
              let d ← d.openTable key.path key.last
              readLines fuel d rest
          | _ => .error .malformed
      | rest =>
          match lineBreak? rest with
          | some rest => readLines fuel d rest
          | none => do
              let (key, rest) ← readKey rest
              match rest with
              | '=' :: rest => do
                  let (value, rest) ← readValue 0 (rest.length + 1) (skipSpace rest)
                  let rest ← endLine rest
                  let d ← d.insert key.path key.last value
                  readLines fuel d rest
              | _ => .error .malformed

def skipByteOrder : List Char -> List Char
  | '\uFEFF' :: rest => rest
  | cs => cs

def readDocument (cs : List Char) : Except Fault Value := do
  let d ← readLines (cs.length + 1) .start cs
  d.finish

def Value.read (text : String) : Except TomlError Value :=
  (readDocument (skipByteOrder text.toList)).mapError fun fault => ⟨fault, text⟩

end Toml
end AnalysisHarness
