import AnalysisHarness.Proofs.Log.Phrases
import AnalysisHarness.Proofs.Log.Scan
import AnalysisHarness.Proofs.Outcome
import AnalysisHarness.Proofs.ServerLog.Growing
import AnalysisHarness.Proofs.Text.Ends
import AnalysisHarness.Proofs.Workspace.Write

/-!
# Following a log and reading it again

What is appended to a log can be read in two ways: by following the log, or by reading the whole
file again. The one decodes and trims each line by itself, the other decodes all bytes at once and
takes a single carriage return off a line. If the log ended with a line break before, both give the
same lines up to carriage returns at their ends, and these never matter to the class of a line.
-/

namespace AnalysisHarness

open Text

namespace Log

/-!
## Carriage returns
-/

/-- A line without the carriage returns at its end. -/
def withoutReturns (line : String) : String :=
  String.ofList (dropEndWhile (fun c => c == '\r') line.toList)

theorem says_concat_return_iff {phrase : List Char} (hreturn : '\r' ∉ phrase) (hne : phrase ≠ [])
    (cs : List Char) :
    phrase <:+: (cs ++ ['\r']).takeWhile (fun c => c != '\n') <->
      phrase <:+: cs.takeWhile fun c => c != '\n' := by
  rw [List.takeWhile_append]
  split
  · rename_i hwhole
    have hcs : cs.takeWhile (fun c => c != '\n') = cs :=
      (List.takeWhile_prefix _).eq_of_length hwhole
    rw [hcs, infix_iff_holds, infix_iff_holds]
    exact iff_of_eq (congrArg (· = true) (holds_append_other hreturn hne cs))
  · exact Iff.rfl

theorem says_withoutReturns_iff {phrase : String} (hreturn : '\r' ∉ phrase.toList)
    (hne : phrase.toList ≠ []) (line : String) :
    Says phrase (withoutReturns line) <-> Says phrase line := by
  rw [Says, Says, withoutReturns, String.toList_ofList]
  induction line.toList using List.reverseRecOn with
  | nil => exact Iff.rfl
  | append_singleton cs c ih =>
      by_cases hc : c = '\r'
      · rw [hc, dropEndWhile_concat_of_pos (by rfl), says_concat_return_iff hreturn hne, ih]
      · rw [dropEndWhile_concat_of_neg (p := fun c => c == '\r') (beq_eq_false_iff_ne.mpr hc)]

theorem classify_withoutReturns (line : String) :
    classify none (withoutReturns line) = classify none line := by
  have hsame : forall phrase : String,
      ('\n' ∉ phrase.toList ∧ '\r' ∉ phrase.toList ∧ phrase.toList ≠ []) ->
      (Pattern.holding phrase).isMatch (withoutReturns line) =
        (Pattern.holding phrase).isMatch line := by
    intro phrase hphrase
    rcases hphrase with ⟨hfeed, hreturn, hne⟩
    rw [Bool.eq_iff_iff, holding_isMatch_iff_of_phrase hfeed, holding_isMatch_iff_of_phrase hfeed]
    exact says_withoutReturns_iff hreturn hne line
  have herror := hsame " ERROR " (by decide)
  have hwarning := hsame " WARN " (by decide)
  have hdatabase := hsame "H2 database should" (by decide)
  have hsearch := hsame "Starting search" (by decide)
  have hweb := hsame "Starting web" (by decide)
  have hbenign : isBenign (withoutReturns line) = isBenign line := by
    simp only [isBenign, benignPhrases, List.any_cons, List.any_nil, hdatabase, hsearch, hweb]
  have hignored : isIgnored none (withoutReturns line) = isIgnored none line := by
    simp only [isIgnored, Option.any_none]
  rw [classify, classify, errorPattern, warningPattern, herror, hwarning, hbenign, hignored]

theorem counts_map_withoutReturns (lines : List String) :
    (Verdict.ofLines none (lines.map withoutReturns)).errors = (Verdict.ofLines none lines).errors ∧
    (Verdict.ofLines none (lines.map withoutReturns)).warnings =
      (Verdict.ofLines none lines).warnings := by
  simp only [ofLines_eq, List.countP_map]
  constructor
  all_goals
    apply List.countP_congr
    intro line _hline
    rw [Function.comp_apply, classify_withoutReturns]

theorem counts_append (ignore : Option Pattern) (lines more : List String) :
    (Verdict.ofLines ignore (lines ++ more)).errors =
      (Verdict.ofLines ignore lines).errors + (Verdict.ofLines ignore more).errors ∧
    (Verdict.ofLines ignore (lines ++ more)).warnings =
      (Verdict.ofLines ignore lines).warnings + (Verdict.ofLines ignore more).warnings := by
  simp only [ofLines_eq]
  exact ⟨List.countP_append, List.countP_append⟩

/-!
## The same bytes read twice
-/

/-- The lines of bytes that do not break off stay as they are when more bytes follow. -/
theorem linesOfBytes_append_of_not_breaksOff {bytes : Bytes} (h : breaksOff 10 bytes = false)
    (more : Bytes) : linesOfBytes (bytes ++ more) = linesOfBytes bytes ++ linesOfBytes more := by
  induction bytes using induction_on_segments (10 : UInt8) with
  | last segment hfeed =>
      cases segment with
      | nil => rfl
      | cons b segment =>
          rw [breaksOff_of_not_mem hfeed (List.cons_ne_nil b segment)] at h
          cases h
  | more segment rest hfeed ih =>
      rw [breaksOff_append_sep] at h
      rw [List.append_assoc, List.cons_append, linesOfBytes_append hfeed,
        linesOfBytes_append hfeed, ih h]
      rfl

end Log

namespace ServerLog

theorem dropEndWhile_chars_dropReturn (segment : Bytes) :
    dropEndWhile (fun c => c == '\r') (chars (Log.dropReturn segment)) =
      dropEndWhile (fun c => c == '\r') (chars segment) := by
  rw [Log.dropReturn]
  split
  · rename_i hlast
    rcases List.getLast?_eq_some_iff.mp hlast with ⟨start, rfl⟩
    rw [List.dropLast_concat, chars_append_ascii start (by decide) []]
    exact (dropEndWhile_concat_of_pos (by rfl) (chars start)).symm
  · rfl

theorem chomp_of_not_mem {line : List Char} (h : '\n' ∉ line) :
    Tail.chomp line = dropEndWhile (fun c => c == '\r') line := by
  apply dropEndWhile_congr
  intro c hc
  have hfeed : (c == '\n') = false := by
    apply beq_eq_false_iff_ne.mpr
    intro heq
    rw [heq] at hc
    exact h hc
  rw [hfeed, Bool.false_or]

theorem chomp_chars_feed {segment : Bytes} (hfeed : 10 ∉ segment) :
    Tail.chomp (chars (segment ++ [10])) = dropEndWhile (fun c => c == '\r') (chars segment) := by
  rw [chars_append_ascii segment (by decide) []]
  rw [← chomp_of_not_mem (not_mem_chars (by decide) hfeed)]
  exact dropEndWhile_concat_of_pos (by rfl) (chars segment)

theorem withoutReturns_shown (segment : Bytes) :
    Log.withoutReturns (Log.shown (segment, true)) =
      String.ofList (dropEndWhile (fun c => c == '\r') (chars segment)) := by
  rw [← dropEndWhile_chars_dropReturn, ← toList_decodeLenient]
  rfl

theorem linesOfBytes_eq_map_withoutReturns (bytes : Bytes) :
    Tail.linesOfBytes bytes = (Log.linesOfBytes bytes).map Log.withoutReturns := by
  induction bytes using induction_on_segments (10 : UInt8) with
  | last segment hfeed =>
      by_cases hne : segment = []
      · rw [hne]
        rfl
      · rw [Log.linesOfBytes_of_not_mem hfeed hne, Tail.linesOfBytes, pieces_of_not_mem hfeed hne,
          List.map_singleton, List.map_singleton, toList_decodeLenient,
          chomp_of_not_mem (not_mem_chars (by decide) hfeed), ← toList_decodeLenient]
        rfl
  | more segment rest hfeed ih =>
      rw [Log.linesOfBytes_append hfeed, List.map_cons, ← ih, withoutReturns_shown,
        ← chomp_chars_feed hfeed, ← toList_decodeLenient, Tail.linesOfBytes, pieces_append hfeed]
      rfl

/-!
## Both ways of reading
-/

theorem start_of_file {files : Workspace} {path : String} {node : NodeId} {bytes : Bytes}
    (hfind : files.find path = .ok node) (hfile : files.node? node = some (.file bytes)) :
    Tail.start files path = .ok ⟨path, node, bytes.length⟩ := by
  have hbytes : files.bytesOf node = .ok bytes := by rw [Workspace.bytesOf, hfile]
  rw [Tail.start]
  apply bind_eq_ok hfind
  rw [hbytes]
  rfl

theorem readLines_of_file {files : Workspace} {path : String} {node : NodeId} {bytes : Bytes}
    (hfind : files.find path = .ok node) (hfile : files.node? node = some (.file bytes)) :
    Log.readLines files path = .ok (Log.linesOfBytes bytes) := by
  have hbytes : files.bytesOf node = .ok bytes := by rw [Workspace.bytesOf, hfile]
  exact Log.readLines_of_read (bind_eq_ok hfind hbytes)

/--
A log that is empty or ends with a line feed is opened, and bytes are appended to it. The lines of
the whole file are then those from before and further ones, and the open log gives these further
lines without the carriage returns at their ends. Both count as many errors and warnings, so the
numbers for the whole file are those from before and those of the open log together.
-/
theorem readNew_agrees_with_rereading {files : Workspace} {path : String} {node : NodeId}
    {before : Bytes} (hfind : files.find path = .ok node)
    (hfile : files.node? node = some (.file before))
    (hend : before = [] ∨ before.getLast? = some 10) (more : Bytes) :
    exists t after earlier later,
      Tail.start files path = .ok t ∧
      files.append path more = .ok after ∧
      Log.readLines files path = .ok earlier ∧
      Log.readLines after path = .ok (earlier ++ later) ∧
      (t.readNew after).1 = .ok (later.map Log.withoutReturns) ∧
      (Log.Verdict.ofLines none (later.map Log.withoutReturns)).errors =
        (Log.Verdict.ofLines none later).errors ∧
      (Log.Verdict.ofLines none (later.map Log.withoutReturns)).warnings =
        (Log.Verdict.ofLines none later).warnings ∧
      (Log.Verdict.ofLines none (earlier ++ later)).errors =
        (Log.Verdict.ofLines none earlier).errors +
          (Log.Verdict.ofLines none (later.map Log.withoutReturns)).errors ∧
      (Log.Verdict.ofLines none (earlier ++ later)).warnings =
        (Log.Verdict.ofLines none earlier).warnings +
          (Log.Verdict.ofLines none (later.map Log.withoutReturns)).warnings := by
  have hbreak : breaksOff 10 before = false := by
    rcases hend with rfl | hlast
    · rfl
    · rw [breaksOff, hlast]
      rfl
  have hwritten := Workspace.node?_appendTo_self more hfile
  have hread := readNew_of_fresh (t := ⟨path, node, before.length⟩) hwritten rfl
  have hcounts := Log.counts_map_withoutReturns (Log.linesOfBytes more)
  have hsums := Log.counts_append none (Log.linesOfBytes before) (Log.linesOfBytes more)
  rw [← hcounts.1, ← hcounts.2] at hsums
  have hafter : (files.appendTo node more).find path = .ok node := by
    rw [Workspace.find_appendTo, hfind]
  refine ⟨⟨path, node, before.length⟩, files.appendTo node more, Log.linesOfBytes before,
    Log.linesOfBytes more, start_of_file hfind hfile, Workspace.append_of_find hfind hfile more,
    readLines_of_file hfind hfile, ?_, ?_, hcounts.1, hcounts.2, hsums.1, hsums.2⟩
  · rw [readLines_of_file hafter hwritten, Log.linesOfBytes_append_of_not_breaksOff hbreak]
  · rw [hread, linesOfBytes_eq_map_withoutReturns]

def raggedLines : Bytes :=
  encode "a WARN b\r\r\n" ++ [0xE2, 0x82, 13, 10] ++ encode "an ERROR " ++ [0xFF, 13]

theorem readNew_agrees_with_rereading_of_ragged_lines :
    startedLog.find "server.log" = .ok 1 ∧
    startedLog.node? 1 = some (.file (encode "an ERROR before\n")) ∧
    (encode "an ERROR before\n").getLast? = some 10 ∧
    exists t after,
      Tail.start startedLog "server.log" = .ok t ∧
      startedLog.append "server.log" raggedLines = .ok after ∧
      Log.readLines after "server.log" =
        .ok ["an ERROR before", "a WARN b\r", "\uFFFD", "an ERROR \uFFFD\r"] ∧
      (t.readNew after).1 = .ok ["a WARN b", "\uFFFD", "an ERROR \uFFFD"] ∧
      (Log.Verdict.ofLines none
        ["an ERROR before", "a WARN b\r", "\uFFFD", "an ERROR \uFFFD\r"]).errors =
          1 + (Log.Verdict.ofLines none ["a WARN b", "\uFFFD", "an ERROR \uFFFD"]).errors := by
  have hfind : startedLog.find "server.log" = .ok 1 := by decide +kernel
  have hfile : startedLog.node? 1 = some (.file (encode "an ERROR before\n")) := by
    decide +kernel
  have hlast : (encode "an ERROR before\n").getLast? = some 10 := by decide +kernel
  rcases readNew_agrees_with_rereading hfind hfile (Or.inr hlast) raggedLines with
    ⟨t, after, earlier, later, hstart, happend, hearlier, hall, hread, _, _, herrors, _⟩
  have hbefore : Log.readLines startedLog "server.log" = .ok ["an ERROR before"] := by
    decide +kernel
  have hwhole : (startedLog.append "server.log" raggedLines).bind
      (fun disk => Log.readLines disk "server.log") =
        .ok ["an ERROR before", "a WARN b\r", "\uFFFD", "an ERROR \uFFFD\r"] := by
    decide +kernel
  rw [happend] at hwhole
  change Log.readLines after "server.log" = _ at hwhole
  rw [hbefore] at hearlier
  cases hearlier
  rw [hwhole] at hall
  cases hall
  have htrimmed : ["a WARN b\r", "\uFFFD", "an ERROR \uFFFD\r"].map Log.withoutReturns =
      ["a WARN b", "\uFFFD", "an ERROR \uFFFD"] := by
    decide +kernel
  have hone : (Log.Verdict.ofLines none ["an ERROR before"]).errors = 1 := by decide +kernel
  rw [htrimmed] at hread herrors
  rw [hone] at herrors
  exact ⟨hfind, hfile, hlast, t, after, hstart, happend, hwhole, hread, herrors⟩

end ServerLog
end AnalysisHarness
