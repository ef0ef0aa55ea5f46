import AnalysisHarness.Log.Reading

/-!
# Following a log

A log is followed from its end on. Each reading gives the lines that were written since the last
one; a line that is not finished yet is given as far as it goes.
-/

namespace AnalysisHarness
namespace ServerLog

open Text

/-- A log that is being followed: the open file, and how far it has been read. -/
structure Tail where
  path : String
  node : NodeId
  offset : Nat
  deriving DecidableEq, Repr

namespace Tail

def start (files : Workspace) (path : String) : Except IoError Tail := do
  let node ← files.find path
  let size := ((files.bytesOf node).toOption.getD []).length
  pure ⟨path, node, size⟩

def chomp (line : List Char) : List Char := dropEndWhile (fun c => c == '\n' || c == '\r') line

/-- The lines of bytes, each of them read leniently by itself. -/
def linesOfBytes (bytes : Bytes) : List String :=
  (pieces 10 bytes).map fun line => String.ofList (chomp (decodeLenient line).toList)

/-- The lines written since the last reading, and the log after reading them. -/
def readNew (files : Workspace) (t : Tail) : Except IoError (List String) × Tail :=
  match files.bytesOf t.node with
  | .error e => (.error e, t)
  | .ok bytes =>
      (.ok (linesOfBytes (bytes.drop t.offset)),
        { t with offset := Nat.max t.offset bytes.length })

end Tail

end ServerLog
end AnalysisHarness
