import AnalysisHarness.Log.Reading
import AnalysisHarness.Proofs.Log.Verdict
import AnalysisHarness.Proofs.Pattern.Holding
import AnalysisHarness.Proofs.Text.Decoding

/-!
# Scanning the bytes of a log

A scan decodes a log, cuts the text into lines and classifies each line. Said of the bytes alone:
cut them at the line feeds, and look in each segment for the bytes of a few phrases. Nothing that
stands between the phrases matters, whether it is text or not.
-/

namespace AnalysisHarness
namespace Log

open Text

/-! ## Segments of bytes -/

def reportsError (segment : Bytes) : Bool := holds (encode " ERROR ") segment

def reportsWarning (segment : Bytes) : Bool :=
  holds (encode " WARN ") segment && !reportsError segment &&
    !holds (encode "H2 database should") segment && !holds (encode "Starting search") segment &&
    !holds (encode "Starting web") segment

theorem reportsError_nil : reportsError [] = false := by decide

theorem reportsWarning_nil : reportsWarning [] = false := by decide

def dropReturn (segment : Bytes) : Bytes :=
  if segment.getLast? = some 13 then segment.dropLast else segment

/-- A segment as a line: what stands directly before a line feed may be a carriage return. -/
def shown (segment : Bytes × Bool) : String :=
  decodeLenient (if segment.2 then dropReturn segment.1 else segment.1)

/-! ## Lines and segments -/

theorem chompLine_return (line : List Char) : chompLine (line ++ ['\r', '\n']) = line := by
  simp [chompLine]

theorem chompLine_feed {line : List Char} (h : line.getLast? ≠ some '\r') :
    chompLine (line ++ ['\n']) = line := by
  rcases List.eq_nil_or_concat line with rfl | ⟨start, last, rfl⟩
  · rfl
  · have hlast : last ≠ '\r' := by simpa using h
    simp [chompLine, hlast]

theorem chompLine_of_not_mem {line : List Char} (h : '\n' ∉ line) : chompLine line = line := by
  rcases List.eq_nil_or_concat line with rfl | ⟨start, last, rfl⟩
  · rfl
  · have hlast : last ≠ '\n' := by
      intro heq
      rw [heq] at h
      exact h (by simp)
    simp [chompLine, hlast]

/-- Carriage returns can be dropped before or after decoding. -/
theorem chompLine_chars_feed (segment : Bytes) :
    chompLine (chars segment ++ ['\n']) = chars (dropReturn segment) := by
  rw [dropReturn]
  split
  · rename_i hreturn
    rcases List.getLast?_eq_some_iff.mp hreturn with ⟨start, rfl⟩
    rw [List.dropLast_concat, chars_append_ascii start (by decide) []]
    rw [List.append_assoc]
    exact chompLine_return (chars start)
  · rename_i hreturn
    apply chompLine_feed
    intro hlast
    rcases List.getLast?_eq_some_iff.mp hlast with ⟨start, hchars⟩
    rcases exists_split_of_chars_eq (by decide) hchars with ⟨pre, rest, rfl, hrest⟩
    rw [chars_eq_nil hrest] at hreturn
    exact hreturn List.getLast?_concat

theorem linesOfBytes_append {segment : Bytes} (h : 10 ∉ segment) (rest : Bytes) :
    linesOfBytes (segment ++ 10 :: rest) = shown (segment, true) :: linesOfBytes rest := by
  have hchars : '\n' ∉ chars segment := not_mem_chars (by decide) h
  simp only [linesOfBytes, linesOf, toList_decodeLenient]
  rw [chars_append_ascii segment (by decide) rest]
  rw [show Char.ofNat (10 : UInt8).toNat = '\n' from rfl, pieces_append hchars, List.map_cons,
    chompLine_chars_feed]
  rfl

theorem linesOfBytes_of_not_mem {segment : Bytes} (h : 10 ∉ segment) (hne : segment ≠ []) :
    linesOfBytes segment = [shown (segment, false)] := by
  have hchars : '\n' ∉ chars segment := not_mem_chars (by decide) h
  simp only [linesOfBytes, linesOf, toList_decodeLenient]
  rw [pieces_of_not_mem hchars (fun hnil => hne (chars_eq_nil hnil)), List.map_singleton,
    chompLine_of_not_mem hchars]
  rfl

/-- The lines of a log are its segments, but for an empty one after the last line feed. -/
theorem linesOfBytes_eq (bytes : Bytes) :
    linesOfBytes bytes =
      ((withEnds (segments 10 bytes)).filter fun segment => segment ≠ ([], false)).map shown := by
  induction bytes using induction_on_segments (10 : UInt8) with
  | last segment hfeed =>
      rw [segments_of_not_mem hfeed, withEnds]
      by_cases hne : segment = []
      · rw [hne]
        rfl
      · rw [linesOfBytes_of_not_mem hfeed hne, List.filter_cons_of_pos (by simpa using hne)]
        rfl
  | more segment rest hfeed ih =>
      rw [linesOfBytes_append hfeed, withEnds_segments_append hfeed,
        List.filter_cons_of_pos (by simp), List.map_cons, ih]

/-! ## Phrases in segments -/

theorem not_mem_of_mem_withEnds {bytes : Bytes} {segment : Bytes × Bool}
    (h : segment ∈ withEnds (segments 10 bytes)) : 10 ∉ segment.1 := by
  induction bytes using induction_on_segments (10 : UInt8) with
  | last xs hfeed =>
      rw [segments_of_not_mem hfeed] at h
      rw [List.mem_singleton.mp h]
      exact hfeed
  | more xs rest hfeed ih =>
      rw [withEnds_segments_append hfeed] at h
      cases List.mem_cons.mp h with
      | inl heq =>
          rw [heq]
          exact hfeed
      | inr hmem => exact ih hmem

theorem holds_dropReturn {phrase : Bytes} (hreturn : 13 ∉ phrase) (hne : phrase ≠ [])
    (segment : Bytes) : holds phrase (dropReturn segment) = holds phrase segment := by
  rw [dropReturn]
  split
  · rename_i hlast
    rcases List.getLast?_eq_some_iff.mp hlast with ⟨start, rfl⟩
    rw [List.dropLast_concat, holds_append_other hreturn hne]
  · rfl

theorem feed_not_mem_shown {segment : Bytes × Bool} (hfeed : 10 ∉ segment.1) :
    '\n' ∉ (shown segment).toList := by
  rw [shown, toList_decodeLenient]
  apply not_mem_chars (by decide)
  intro hmem
  apply hfeed
  rw [dropReturn] at hmem
  split at hmem
  · split at hmem
    · exact List.dropLast_subset _ hmem
    · exact hmem
  · exact hmem

theorem feed_not_mem_of_mem_linesOfBytes {bytes : Bytes} {line : String}
    (h : line ∈ linesOfBytes bytes) : '\n' ∉ line.toList := by
  rw [linesOfBytes_eq] at h
  rcases List.mem_map.mp h with ⟨segment, hsegment, rfl⟩
  exact feed_not_mem_shown (not_mem_of_mem_withEnds (List.mem_filter.mp hsegment).1)

/-- A phrase of one line is found in a line as in the bytes of the segment. -/
theorem isMatch_shown {phrase : String}
    (hall : phrase.toList.all (fun c => c.toNat < 0x80) = true)
    (hne : phrase.toList ≠ []) (hreturn : 13 ∉ encode phrase) {segment : Bytes × Bool}
    (hfeed : 10 ∉ segment.1) :
    (Pattern.holding phrase).isMatch (shown segment) = holds (encode phrase) segment.1 := by
  have hascii : forall c, c ∈ phrase.toList -> c.toNat < 0x80 := by
    intro c hc
    exact of_decide_eq_true (List.all_eq_true.mp hall c hc)
  have hline := feed_not_mem_shown hfeed
  have hphrase : encode phrase ≠ [] := by
    rw [encode_ascii hascii]
    simpa using hne
  rw [Pattern.holding_isMatch_eq_contains phrase _ hline, shown,
    contains_decodeLenient hascii hne]
  split
  · exact holds_dropReturn hreturn hphrase segment.1
  · rfl

/-- The class of a line, from the bytes of its segment. -/
theorem classify_shown {segment : Bytes × Bool} (hfeed : 10 ∉ segment.1) :
    classify none (shown segment) =
      if reportsError segment.1 then .error
      else if reportsWarning segment.1 then .warning
      else if holds (encode " WARN ") segment.1 then .warningIgnored
      else .normal := by
  have herror := @isMatch_shown " ERROR " (by decide) (by decide) (by decide) segment hfeed
  have hwarn := @isMatch_shown " WARN " (by decide) (by decide) (by decide) segment hfeed
  have hdatabase :=
    @isMatch_shown "H2 database should" (by decide) (by decide) (by decide) segment hfeed
  have hsearch :=
    @isMatch_shown "Starting search" (by decide) (by decide) (by decide) segment hfeed
  have hweb := @isMatch_shown "Starting web" (by decide) (by decide) (by decide) segment hfeed
  have hbenign : isBenign (shown segment) =
      (holds (encode "H2 database should") segment.1 ||
        (holds (encode "Starting search") segment.1 ||
          holds (encode "Starting web") segment.1)) := by
    rw [← hdatabase, ← hsearch, ← hweb, isBenign, benignPhrases, List.any_cons, List.any_cons,
      List.any_cons, List.any_nil, Bool.or_false]
  rw [classify, errorPattern, warningPattern, herror, hwarn, hbenign, isIgnored, Option.any_none,
    Bool.false_or, reportsWarning, reportsError]
  cases holds (encode " ERROR ") segment.1 with
  | true => rfl
  | false =>
      cases holds (encode " WARN ") segment.1 with
      | false => rfl
      | true =>
          cases holds (encode "H2 database should") segment.1 with
          | true => rfl
          | false =>
              cases holds (encode "Starting search") segment.1 with
              | true => rfl
              | false => cases holds (encode "Starting web") segment.1 <;> rfl

theorem not_reportsWarning_of_reportsError {segment : Bytes} (h : reportsError segment = true) :
    reportsWarning segment = false := by
  simp [reportsWarning, h]

theorem error_eq_reportsError {segment : Bytes × Bool} (hfeed : 10 ∉ segment.1) :
    decide (classify none (shown segment) = .error) = reportsError segment.1 := by
  rw [classify_shown hfeed]
  cases herror : reportsError segment.1 with
  | true => rfl
  | false =>
      cases hwarning : reportsWarning segment.1 with
      | true => rfl
      | false => cases holds (encode " WARN ") segment.1 <;> rfl

theorem warning_eq_reportsWarning {segment : Bytes × Bool} (hfeed : 10 ∉ segment.1) :
    decide (classify none (shown segment) = .warning) = reportsWarning segment.1 := by
  rw [classify_shown hfeed]
  cases herror : reportsError segment.1 with
  | true =>
      rw [not_reportsWarning_of_reportsError herror]
      rfl
  | false =>
      cases hwarning : reportsWarning segment.1 with
      | true => rfl
      | false => cases holds (encode " WARN ") segment.1 <;> rfl

theorem offending_eq_reports {segment : Bytes × Bool} (hfeed : 10 ∉ segment.1) :
    decide (classify none (shown segment) = .error ∨ classify none (shown segment) = .warning) =
      (reportsError segment.1 || reportsWarning segment.1) := by
  rw [Bool.decide_or, error_eq_reportsError hfeed, warning_eq_reportsWarning hfeed]

/-! ## Scans -/

theorem filter_linesOfBytes (bytes : Bytes) (chosen : String -> Bool)
    (reports : Bytes -> Bool) (hempty : reports [] = false)
    (h : forall segment : Bytes × Bool, 10 ∉ segment.1 ->
      chosen (shown segment) = reports segment.1) :
    (linesOfBytes bytes).filter chosen =
      ((withEnds (segments 10 bytes)).filter fun segment => reports segment.1).map shown := by
  rw [linesOfBytes_eq, List.filter_map, List.filter_filter]
  refine congrArg (List.map shown) (List.filter_congr ?_)
  intro segment hmem
  rw [Function.comp_apply, h segment (not_mem_of_mem_withEnds hmem)]
  by_cases hnothing : segment = ([], false)
  · rw [hnothing, hempty, Bool.false_and]
  · rw [decide_eq_true hnothing, Bool.and_true]

theorem countP_linesOfBytes (bytes : Bytes) (chosen : String -> Bool)
    (reports : Bytes -> Bool) (hempty : reports [] = false)
    (h : forall segment : Bytes × Bool, 10 ∉ segment.1 ->
      chosen (shown segment) = reports segment.1) :
    (linesOfBytes bytes).countP chosen = (segments 10 bytes).countP reports := by
  calc
    (linesOfBytes bytes).countP chosen = ((linesOfBytes bytes).filter chosen).length :=
      List.countP_eq_length_filter
    _ = ((withEnds (segments 10 bytes)).filter fun segment => reports segment.1).length := by
      rw [filter_linesOfBytes bytes chosen reports hempty h, List.length_map]
    _ = (withEnds (segments 10 bytes)).countP (reports ∘ Prod.fst) :=
      List.countP_eq_length_filter.symm
    _ = ((withEnds (segments 10 bytes)).map Prod.fst).countP reports := List.countP_map.symm
    _ = (segments 10 bytes).countP reports := by rw [map_fst_withEnds]

/--
The verdict on a file, whatever its bytes are: each segment between line feeds counts by the
phrases whose bytes stand in it, and those that count are shown in their order.
-/
theorem scan_counts_segments {files : Workspace} {path : String} {bytes : Bytes}
    (h : files.read path = .ok bytes) :
    scan files path none =
      { offending := ((withEnds (segments 10 bytes)).filter fun segment =>
          reportsError segment.1 || reportsWarning segment.1).map shown
        errors := (segments 10 bytes).countP reportsError
        warnings := (segments 10 bytes).countP reportsWarning
        readFailure := none } := by
  have hlines : readLines files path = .ok (linesOfBytes bytes) := by
    rw [readLines, h]
    rfl
  have hnothing : (reportsError [] || reportsWarning []) = false := by
    rw [reportsError_nil, reportsWarning_nil, Bool.false_or]
  have herrors := countP_linesOfBytes bytes (fun line => classify none line = .error)
    reportsError reportsError_nil (fun _ hfeed => error_eq_reportsError hfeed)
  have hwarnings := countP_linesOfBytes bytes (fun line => classify none line = .warning)
    reportsWarning reportsWarning_nil (fun _ hfeed => warning_eq_reportsWarning hfeed)
  have hlisted := filter_linesOfBytes bytes
    (fun line => classify none line = .error ∨ classify none line = .warning)
    (fun segment => reportsError segment || reportsWarning segment) hnothing
    (fun _ hfeed => offending_eq_reports hfeed)
  rw [scan, hlines]
  show Verdict.ofLines none (linesOfBytes bytes) = _
  rw [ofLines_eq, herrors, hwarnings, hlisted]

def brokenLog : Bytes :=
  [0xFF] ++ encode " ERROR " ++ [0xC3, 13, 10] ++ encode "a WARN b" ++ [13, 10] ++
    [0xE2, 0x82] ++ encode " WARN Starting web"

def diskWithLog (bytes : Bytes) : Workspace where
  nodes := [.directory 0 (.mk [("a.log", 1)]), .file bytes]
  current := 0

theorem scan_counts_segments_of_broken_log :
    (diskWithLog brokenLog).read "a.log" = .ok brokenLog ∧
      scan (diskWithLog brokenLog) "a.log" none =
        { offending := ["\uFFFD ERROR \uFFFD", "a WARN b"]
          errors := 1
          warnings := 1
          readFailure := none } := by
  have hread : (diskWithLog brokenLog).read "a.log" = .ok brokenLog := by rfl
  have hverdict := scan_counts_segments hread
  refine ⟨hread, hverdict.trans ?_⟩
  decide +kernel

end Log
end AnalysisHarness
