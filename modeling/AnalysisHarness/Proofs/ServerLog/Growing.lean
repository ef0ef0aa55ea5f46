import AnalysisHarness.Proofs.Log.Verdict
import AnalysisHarness.Proofs.Text.Splitting
import AnalysisHarness.Proofs.Workspace.Append
import AnalysisHarness.ServerLog.Tail
import Mathlib.Algebra.Ring.Nat

/-!
# Reading a log that grows

A followed log can be read at any time while it is being written. Each reading gives the lines of
the bytes that were written since the one before, and the last of them as far as it goes. So it
matters when the log is read: a reading in the middle of a line gives that line in two parts, and
any other reading changes nothing.
-/

namespace AnalysisHarness
namespace ServerLog

open Text

/-!
## One reading
-/

theorem readNew_of_fresh {files : Workspace} {t : Tail} {old fresh : Bytes}
    (hfile : files.node? t.node = some (.file (old ++ fresh))) (hoffset : t.offset = old.length) :
    t.readNew files =
      (.ok (Tail.linesOfBytes fresh), { t with offset := (old ++ fresh).length }) := by
  have hbytes : files.bytesOf t.node = .ok (old ++ fresh) := by
    rw [Workspace.bytesOf, hfile]
  have hend : Nat.max t.offset (old ++ fresh).length = (old ++ fresh).length := by
    apply Nat.max_eq_right
    rw [hoffset, List.length_append]
    exact Nat.le_add_right old.length fresh.length
  simp only [Tail.readNew, hbytes, hend]
  rw [hoffset, List.drop_left]

theorem exists_file_of_start {files : Workspace} {path : String} {t : Tail}
    (hstart : Tail.start files path = .ok t) (hfile : files.isFileNode t.node = true) :
    exists old, files.node? t.node = some (.file old) ∧ t.offset = old.length := by
  rw [Tail.start] at hstart
  cases hfind : files.find path with
  | error e =>
      rw [hfind] at hstart
      cases hstart
  | ok node =>
      rw [hfind] at hstart
      cases hstart
      rcases Workspace.exists_bytes_of_isFileNode hfile with ⟨old, hold⟩
      refine ⟨old, hold, ?_⟩
      change ((files.bytesOf node).toOption.getD []).length = old.length
      have hbytes : files.bytesOf node = .ok old := by
        rw [Workspace.bytesOf]
        exact hold ▸ rfl
      rw [hbytes]
      rfl

/-!
## Readings in a row
-/

/-- What the readings give when a log is read after each of the chunks that are written to it. -/
def readings (files : Workspace) (t : Tail) : List Bytes -> List (Except IoError (List String))
  | [] => []
  | chunk :: chunks =>
      let files := files.appendTo t.node chunk
      (t.readNew files).1 :: readings files (t.readNew files).2 chunks

theorem readings_eq {files : Workspace} {t : Tail} {old : Bytes}
    (hfile : files.node? t.node = some (.file old)) (hoffset : t.offset = old.length)
    (chunks : List Bytes) :
    readings files t chunks = chunks.map fun chunk => .ok (Tail.linesOfBytes chunk) := by
  induction chunks generalizing files t old with
  | nil => rfl
  | cons chunk chunks ih =>
      have hwritten := Workspace.node?_appendTo_self chunk hfile
      have hread := readNew_of_fresh hwritten hoffset
      rw [readings, hread, List.map_cons]
      exact congrArg _ (ih hwritten rfl)

/-!
## Cuts within lines

Where a chunk breaks off within a line, its last piece and the first piece of what follows are one
piece of the whole. Everywhere else the pieces of the chunks are those of the whole.
-/

theorem length_linesOfBytes (bytes : Bytes) :
    (Tail.linesOfBytes bytes).length = (pieces 10 bytes).length := by
  rw [Tail.linesOfBytes, List.length_map]

theorem linesOfBytes_append_of_not_breaksOff {bytes : Bytes} (h : breaksOff 10 bytes = false)
    (more : Bytes) :
    Tail.linesOfBytes (bytes ++ more) = Tail.linesOfBytes bytes ++ Tail.linesOfBytes more := by
  rw [Tail.linesOfBytes, pieces_append_of_not_breaksOff h, List.map_append]
  rfl

/-- What has been written before each reading ends with a line feed, if anything follows it. -/
def CutBetweenLines (chunks : List Bytes) : Prop :=
  forall before after, chunks = before ++ after ->
    breaksOff 10 before.flatten = false ∨ after.flatten = []

theorem linesOfBytes_of_flatten_eq_nil {chunks : List Bytes} (h : chunks.flatten = []) :
    (chunks.map Tail.linesOfBytes).flatten = [] := by
  rw [List.flatten_eq_nil_iff] at h ⊢
  intro lines hlines
  rcases List.mem_map.mp hlines with ⟨chunk, hchunk, rfl⟩
  rw [h chunk hchunk]
  rfl

theorem cutBetweenLines_of_flatten_eq_nil {chunk : Bytes} {chunks : List Bytes}
    (h : chunks.flatten = []) : CutBetweenLines (chunk :: chunks) := by
  intro before after heq
  cases before with
  | nil => exact Or.inl rfl
  | cons first before =>
      rw [List.cons_append, List.cons.injEq] at heq
      rw [heq.2, List.flatten_append] at h
      exact Or.inr (List.append_eq_nil_iff.mp h).2

theorem cutBetweenLines_cons_iff {chunk : Bytes} {chunks : List Bytes}
    (hmore : chunks.flatten ≠ []) :
    CutBetweenLines (chunk :: chunks) <-> breaksOff 10 chunk = false ∧ CutBetweenLines chunks := by
  constructor
  · intro h
    have hchunk : breaksOff 10 chunk = false := by
      rcases h [chunk] chunks rfl with hfirst | hnil
      · simpa using hfirst
      · exact absurd hnil hmore
    refine ⟨hchunk, ?_⟩
    intro before after heq
    rcases h (chunk :: before) after (congrArg (List.cons chunk) heq) with hbefore | hnil
    · by_cases hempty : before.flatten = []
      · rw [hempty]
        exact Or.inl rfl
      · rw [List.flatten_cons, breaksOff_append 10 chunk hempty] at hbefore
        exact Or.inl hbefore
    · exact Or.inr hnil
  · intro h before after heq
    cases before with
    | nil => exact Or.inl rfl
    | cons first before =>
        rw [List.cons_append, List.cons.injEq] at heq
        rw [← heq.1, List.flatten_cons]
        by_cases hempty : before.flatten = []
        · rw [hempty, List.append_nil]
          exact Or.inl h.1
        · rw [breaksOff_append 10 chunk hempty]
          exact h.2 before after heq.2

/-- Cuts never make the lines fewer. -/
theorem length_linesOfBytes_flatten_le (chunks : List Bytes) :
    (Tail.linesOfBytes chunks.flatten).length ≤
      ((chunks.map Tail.linesOfBytes).flatten).length := by
  induction chunks with
  | nil => exact Nat.le_refl 0
  | cons chunk chunks ih =>
      rw [List.map_cons, List.flatten_cons, List.flatten_cons, List.length_append]
      cases hcut : breaksOff 10 chunk with
      | false =>
          rw [linesOfBytes_append_of_not_breaksOff hcut, List.length_append]
          exact Nat.add_le_add_left ih _
      | true =>
          by_cases hmore : chunks.flatten = []
          · rw [hmore, List.append_nil]
            exact Nat.le_add_right _ _
          · have hjoined := length_pieces_append_of_breaksOff hcut hmore
            rw [← length_linesOfBytes, ← length_linesOfBytes, ← length_linesOfBytes] at hjoined
            omega

/-- The lines of the chunks are those of the whole exactly where no cut is within a line. -/
theorem flatten_map_linesOfBytes_eq_iff (chunks : List Bytes) :
    (chunks.map Tail.linesOfBytes).flatten = Tail.linesOfBytes chunks.flatten <->
      CutBetweenLines chunks := by
  induction chunks with
  | nil =>
      constructor
      · intro _h before after heq
        rw [(List.append_eq_nil_iff.mp heq.symm).1]
        exact Or.inl rfl
      · intro _h
        rfl
  | cons chunk chunks ih =>
      rw [List.map_cons, List.flatten_cons, List.flatten_cons]
      by_cases hmore : chunks.flatten = []
      · rw [hmore, List.append_nil, linesOfBytes_of_flatten_eq_nil hmore, List.append_nil]
        exact iff_of_true rfl (cutBetweenLines_of_flatten_eq_nil hmore)
      · rw [cutBetweenLines_cons_iff hmore]
        cases hcut : breaksOff 10 chunk with
        | false =>
            rw [linesOfBytes_append_of_not_breaksOff hcut, List.append_cancel_left_eq, ih]
            simp
        | true =>
            -- the lines of the chunks are more than those of the whole
            have hjoined := length_pieces_append_of_breaksOff hcut hmore
            rw [← length_linesOfBytes, ← length_linesOfBytes, ← length_linesOfBytes] at hjoined
            have hle := length_linesOfBytes_flatten_le chunks
            constructor
            · intro heq
              have hlength := congrArg List.length heq
              rw [List.length_append] at hlength
              omega
            · intro h
              cases h.1

/-!
## Counts
-/

theorem sum_errors_ofLines (ignore : Option Pattern) (parts : List (List String)) :
    (parts.map fun lines => (Log.Verdict.ofLines ignore lines).errors).sum =
      (Log.Verdict.ofLines ignore parts.flatten).errors := by
  simp only [Log.ofLines_eq, List.countP_flatten]

theorem sum_warnings_ofLines (ignore : Option Pattern) (parts : List (List String)) :
    (parts.map fun lines => (Log.Verdict.ofLines ignore lines).warnings).sum =
      (Log.Verdict.ofLines ignore parts.flatten).warnings := by
  simp only [Log.ofLines_eq, List.countP_flatten]

/--
A log that is opened and then written to in chunks, with a reading after each of them. Every
reading gives the lines of the chunk before it. Together they give the lines of one reading after
all chunks exactly if no reading falls within a line, and then they count as many errors and
warnings as that one.
-/
theorem readings_give_lines_of_whole_iff {files : Workspace} {path : String} {t : Tail}
    (hstart : Tail.start files path = .ok t) (hfile : files.isFileNode t.node = true)
    (chunks : List Bytes) :
    exists parts whole,
      readings files t chunks = parts.map .ok ∧
      (t.readNew (files.appendTo t.node chunks.flatten)).1 = .ok whole ∧
      parts = chunks.map Tail.linesOfBytes ∧
      (parts.flatten = whole <-> CutBetweenLines chunks) ∧
      (CutBetweenLines chunks -> forall ignore,
        (parts.map fun lines => (Log.Verdict.ofLines ignore lines).errors).sum =
          (Log.Verdict.ofLines ignore whole).errors ∧
        (parts.map fun lines => (Log.Verdict.ofLines ignore lines).warnings).sum =
          (Log.Verdict.ofLines ignore whole).warnings) := by
  rcases exists_file_of_start hstart hfile with ⟨old, hold, hoffset⟩
  have hwhole := readNew_of_fresh (Workspace.node?_appendTo_self chunks.flatten hold) hoffset
  refine ⟨chunks.map Tail.linesOfBytes, Tail.linesOfBytes chunks.flatten, ?_, ?_, rfl,
    flatten_map_linesOfBytes_eq_iff chunks, ?_⟩
  · rw [readings_eq hold hoffset, List.map_map]
    rfl
  · rw [hwhole]
  · intro hcuts ignore
    rw [sum_errors_ofLines, sum_warnings_ofLines,
      (flatten_map_linesOfBytes_eq_iff chunks).mpr hcuts]
    exact ⟨rfl, rfl⟩

def startedLog : Workspace where
  nodes := [.directory 0 (.mk [("server.log", 1)]), .file (encode "an ERROR before\n")]
  current := 0

theorem readings_give_lines_of_three_chunks :
    Tail.start startedLog "server.log" = .ok ⟨"server.log", 1, 16⟩ ∧
    startedLog.isFileNode 1 = true ∧
    readings startedLog ⟨"server.log", 1, 16⟩
        [encode "an ERROR here\r\na line\n", [], encode "a WARN he"] =
      [.ok ["an ERROR here", "a line"], .ok [], .ok ["a WARN he"]] ∧
    CutBetweenLines [encode "an ERROR here\r\na line\n", [], encode "a WARN he"] := by
  have hstart : Tail.start startedLog "server.log" = .ok ⟨"server.log", 1, 16⟩ := by
    decide +kernel
  have hfile : startedLog.isFileNode 1 = true := by decide
  rcases readings_give_lines_of_whole_iff hstart hfile
    [encode "an ERROR here\r\na line\n", [], encode "a WARN he"] with
    ⟨parts, whole, hparts, hwhole, hlines, hcuts, _hcounts⟩
  have hread : (Tail.readNew (startedLog.appendTo 1
      [encode "an ERROR here\r\na line\n", [], encode "a WARN he"].flatten)
        ⟨"server.log", 1, 16⟩).1 = .ok ["an ERROR here", "a line", "a WARN he"] := by
    decide +kernel
  have hpieces : parts = [["an ERROR here", "a line"], [], ["a WARN he"]] := by
    rw [hlines]
    decide +kernel
  rw [hread] at hwhole
  cases hwhole
  rw [hpieces] at hparts hcuts
  exact ⟨hstart, hfile, hparts, hcuts.mp rfl⟩

/-- A reading within a line gives it in two parts, and then the error that it reports is missed. -/
theorem reading_within_line_misses_error :
    Tail.start startedLog "server.log" = .ok ⟨"server.log", 1, 16⟩ ∧
    readings startedLog ⟨"server.log", 1, 16⟩ [encode "an ERR", encode "OR here\n"] =
      [.ok ["an ERR"], .ok ["OR here"]] ∧
    (Tail.readNew (startedLog.appendTo 1 [encode "an ERR", encode "OR here\n"].flatten)
      ⟨"server.log", 1, 16⟩).1 = .ok ["an ERROR here"] ∧
    (Log.Verdict.ofLines none ["an ERR", "OR here"]).errors = 0 ∧
    (Log.Verdict.ofLines none ["an ERROR here"]).errors = 1 := by
  decide +kernel

end ServerLog
end AnalysisHarness
