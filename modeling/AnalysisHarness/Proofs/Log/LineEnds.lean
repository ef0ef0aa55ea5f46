import AnalysisHarness.Log.TaskUrl
import AnalysisHarness.Proofs.ServerLog.Rereading
import AnalysisHarness.Proofs.Text.Replacing

/-!
# Line ends with carriage returns

Three readers take line ends off: that of a log file, that of a followed log and that of ignore
text. None of them minds a carriage return that is put before each line feed, wherever the line
feeds are and whatever the bytes around them are.
-/

namespace AnalysisHarness

open Text

namespace Log

def withReturns (bytes : Bytes) : Bytes := replaceAll [10] [13, 10] bytes

theorem shown_concat_return {segment : Bytes} (h : 13 ∉ segment) :
    shown (segment ++ [13], true) = shown (segment, true) := by
  have hlast : segment.getLast? ≠ some 13 := fun hlast => h (List.mem_of_getLast? hlast)
  simp [shown, dropReturn, hlast]

theorem linesOfBytes_withReturns {bytes : Bytes} (h : 13 ∉ bytes) :
    linesOfBytes (withReturns bytes) = linesOfBytes bytes := by
  unfold withReturns
  induction bytes using induction_on_segments (10 : UInt8) with
  | last segment hfeed => rw [replaceAll_of_not_mem hfeed]
  | more segment rest hfeed ih =>
      rw [List.mem_append, List.mem_cons, not_or, not_or] at h
      have hfeed' : (10 : UInt8) ∉ segment ++ [13] :=
        List.not_mem_append hfeed (by decide)
      rw [replaceAll_append_sep hfeed, linesOfBytes_append hfeed', linesOfBytes_append hfeed,
        shown_concat_return h.1, ih h.2.2]

end Log

namespace Pattern

theorem alternatives_replace_returns (text : String) :
    alternatives (replace "\n" "\r\n" text) = alternatives text := by
  have hlines : forall cs : List Char,
      (segments '\n' (replaceAll ['\n'] ['\r', '\n'] cs)).map (dropEndWhile (· == '\r')) =
        (segments '\n' cs).map (dropEndWhile (· == '\r')) := by
    intro cs
    induction cs using induction_on_segments '\n' with
    | last segment hfeed => rw [replaceAll_of_not_mem hfeed]
    | more segment rest hfeed ih =>
        have hfeed' : '\n' ∉ segment ++ ['\r'] := List.not_mem_append hfeed (by decide)
        rw [replaceAll_append_sep hfeed, segments_append hfeed', segments_append hfeed,
          List.map_cons, List.map_cons, ih]
        exact congrArg (· :: _) (dropEndWhile_concat_of_pos (by rfl) segment)
  unfold alternatives replace
  rw [String.toList_ofList]
  exact congrArg (List.filter _) (hlines text.toList)

theorem ofIgnoreText_eq_of_alternatives {text other : String}
    (h : alternatives text = alternatives other) : ofIgnoreText text = ofIgnoreText other := by
  rw [ofIgnoreText, h, ofIgnoreText]

end Pattern

namespace ServerLog

theorem linesOfBytes_withReturns {bytes : Bytes} (h : 13 ∉ bytes) :
    Tail.linesOfBytes (Log.withReturns bytes) = Tail.linesOfBytes bytes := by
  rw [linesOfBytes_eq_map_withoutReturns, linesOfBytes_eq_map_withoutReturns,
    Log.linesOfBytes_withReturns h]

theorem find_of_start {files : Workspace} {path : String} {t : Tail}
    (h : Tail.start files path = .ok t) :
    files.find path = .ok t.node ∧
      t.offset = ((files.bytesOf t.node).toOption.getD []).length := by
  rcases exists_of_bind_eq_ok h with ⟨node, hfind, hsame⟩
  cases hsame
  exact ⟨hfind, rfl⟩

theorem readNew_of_append {files after : Workspace} {path : String} {t : Tail} {more : Bytes}
    (hstart : Tail.start files path = .ok t) (happend : files.append path more = .ok after) :
    (t.readNew after).1 = .ok (if files.isFileNode t.node then Tail.linesOfBytes more else []) := by
  rcases find_of_start hstart with ⟨hfind, hoffset⟩
  rw [Workspace.append_eq_of_find hfind] at happend
  split at happend
  · cases happend
  · rename_i hdirectory
    cases happend
    split
    · rename_i hfile
      rcases Workspace.exists_bytes_of_isFileNode hfile with ⟨old, hold⟩
      have hbytes : files.bytesOf t.node = .ok old := by rw [Workspace.bytesOf, hold]
      rw [hbytes] at hoffset
      rw [readNew_of_fresh (Workspace.node?_appendTo_self more hold) hoffset]
    · rename_i hfile
      rcases Workspace.appendTo_of_other (Bool.eq_false_iff.mpr hfile)
        (Bool.eq_false_iff.mpr hdirectory) more with ⟨hsame, hbytes⟩
      rw [hsame, Tail.readNew, hbytes]
      exact congrArg (fun bytes => Except.ok (Tail.linesOfBytes bytes)) List.drop_nil

end ServerLog

namespace Log

/-- Two disks in which a path leads to logs that no reader can tell apart. -/
structure ReadAlike (path : String) (files others : Workspace) : Prop where
  lines : exists lines, readLines files path = .ok lines ∧ readLines others path = .ok lines
  verdict (ignore : Option Pattern) : scan others path ignore = scan files path ignore
  address : (readLines others path).map taskUrl = (readLines files path).map taskUrl
  search (pattern : String) : containsLine others path pattern = containsLine files path pattern

theorem readAlike_of_lines {path : String} {files others : Workspace} {lines : List String}
    (h : readLines files path = .ok lines) (h' : readLines others path = .ok lines) :
    ReadAlike path files others where
  lines := ⟨lines, h, h'⟩
  verdict ignore := by rw [scan, scan, h, h']
  address := by rw [h, h']
  search pattern := by rw [containsLine, containsLine, h, h']

/--
Carriage returns put before line feeds make no difference: to whatever is read from a log file, to
what is read from a log after it was opened, and to the pattern of an ignore text.
-/
theorem returns_before_feeds_make_no_difference :
    (forall (files others : Workspace) (path : String) (bytes : Bytes), 13 ∉ bytes ->
      files.read path = .ok bytes -> others.read path = .ok (withReturns bytes) ->
      ReadAlike path files others) ∧
    (forall (files after : Workspace) (path : String) (t : ServerLog.Tail) (more : Bytes),
      13 ∉ more -> ServerLog.Tail.start files path = .ok t -> files.append path more = .ok after ->
      exists after' lines, files.append path (withReturns more) = .ok after' ∧
        (t.readNew after).1 = .ok lines ∧ (t.readNew after').1 = .ok lines) ∧
    forall text : String,
      Pattern.ofIgnoreText (replace "\n" "\r\n" text) = Pattern.ofIgnoreText text := by
  refine ⟨?_, ?_, ?_⟩
  · intro files others path bytes hreturn hread hread'
    have hlines := readLines_of_read hread'
    rw [linesOfBytes_withReturns hreturn] at hlines
    exact readAlike_of_lines (readLines_of_read hread) hlines
  · intro files after path t more hreturn hstart happend
    have hfind := (ServerLog.find_of_start hstart).1
    have happend' : exists after', files.append path (withReturns more) = .ok after' := by
      rw [Workspace.append_eq_of_find hfind] at happend ⊢
      split at happend
      · cases happend
      · rename_i hdirectory
        exact ⟨_, if_neg hdirectory⟩
    rcases happend' with ⟨after', happend'⟩
    refine ⟨after', _, happend', ServerLog.readNew_of_append hstart happend, ?_⟩
    rw [ServerLog.readNew_of_append hstart happend', ServerLog.linesOfBytes_withReturns hreturn]
  · intro text
    exact Pattern.ofIgnoreText_eq_of_alternatives (Pattern.alternatives_replace_returns text)

def feedsOnly : Bytes :=
  [0xFF] ++ encode " ERROR " ++ [0xC3, 10, 10, 0x80] ++ encode " WARN x" ++ [0xE2, 0x82, 10] ++
    encode "an ERR"

theorem returns_before_feeds_of_broken_bytes :
    ReadAlike "a.log" (diskWithLog feedsOnly) (diskWithLog (withReturns feedsOnly)) ∧
    (exists t after after' lines,
      ServerLog.Tail.start (diskWithLog feedsOnly) "a.log" = .ok t ∧
      (diskWithLog feedsOnly).append "a.log" feedsOnly = .ok after ∧
      (diskWithLog feedsOnly).append "a.log" (withReturns feedsOnly) = .ok after' ∧
      (t.readNew after).1 = .ok lines ∧ (t.readNew after').1 = .ok lines) ∧
    Pattern.ofIgnoreText "a.\r\n\r\n(b|c)\r" = Pattern.ofIgnoreText "a.\n\n(b|c)\r" := by
  have hreturn : 13 ∉ feedsOnly := by decide +kernel
  rcases returns_before_feeds_make_no_difference with ⟨hfile, htail, htext⟩
  have hstart : exists t, ServerLog.Tail.start (diskWithLog feedsOnly) "a.log" = .ok t := ⟨_, rfl⟩
  have happend : exists after, (diskWithLog feedsOnly).append "a.log" feedsOnly = .ok after :=
    ⟨_, rfl⟩
  rcases hstart with ⟨t, hstart⟩
  rcases happend with ⟨after, happend⟩
  rcases htail _ after "a.log" t feedsOnly hreturn hstart happend with
    ⟨after', lines, happend', hread, hread'⟩
  exact ⟨hfile _ _ "a.log" feedsOnly hreturn rfl rfl,
    ⟨t, after, after', lines, hstart, happend, happend', hread, hread'⟩,
    htext "a.\n\n(b|c)\r"⟩

end Log

end AnalysisHarness
