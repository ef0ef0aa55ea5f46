import AnalysisHarness.Proofs.Log.Scan
import AnalysisHarness.Proofs.Report.Agreement

/-!
# What a report lists

The message about a log that is not clean has a line for each line that counts, between a heading
and a line with the name of the log. The marks of a palette stand around the lines and the first
word; without them every palette gives the same text.
-/

namespace AnalysisHarness

open Text

/-!
## Texts without marks
-/

namespace Palette

def escape : Char := '\x1b'

def marks : List String :=
  ["\x1b[31m", "\x1b[33m", "\x1b[32m", "\x1b[39m", "\x1b[1m", "\x1b[0m"]

def markAt? (cs : List Char) : Option String :=
  marks.find? fun mark => mark.toList.isPrefixOf cs

/-- Passes over `skip` characters, then leaves out every mark. -/
def eraseFrom : Nat -> List Char -> List Char
  | _, [] => []
  | skip + 1, _ :: rest => eraseFrom skip rest
  | 0, c :: rest =>
      match markAt? (c :: rest) with
      | some mark => eraseFrom (mark.length - 1) rest
      | none => c :: eraseFrom 0 rest

def erase (s : String) : String := String.ofList (eraseFrom 0 s.toList)

theorem head?_mark : forall mark, mark ∈ marks -> mark.toList.head? = some escape := by
  decide

theorem eq_of_mark_begins : forall mark, mark ∈ marks -> forall other, other ∈ marks ->
    mark.toList <+: other.toList -> mark = other := by
  decide

theorem markAt?_eq_none {cs : List Char} (h : cs.head? ≠ some escape) : markAt? cs = none := by
  apply List.find?_eq_none.mpr
  intro mark hmark hbegins
  rcases List.isPrefixOf_iff_prefix.mp hbegins with ⟨rest, rfl⟩
  apply h
  rw [List.head?_append, head?_mark mark hmark]
  rfl

theorem markAt?_append {mark : String} (h : mark ∈ marks) (rest : List Char) :
    markAt? (mark.toList ++ rest) = some mark := by
  cases hfind : markAt? (mark.toList ++ rest) with
  | none =>
      have hnot := List.find?_eq_none.mp hfind mark h
      rw [List.isPrefixOf_iff_prefix] at hnot
      exact absurd (List.prefix_append _ rest) hnot
  | some found =>
      have hfound : found ∈ marks := List.mem_of_find?_eq_some hfind
      have hbegins : found.toList <+: mark.toList ++ rest := by
        have hholds := List.find?_some hfind
        exact List.isPrefixOf_iff_prefix.mp hholds
      -- both begin the text, so one of them begins the other
      rcases List.prefix_or_prefix_of_prefix hbegins (List.prefix_append mark.toList rest) with
        hprefix | hprefix
      · rw [eq_of_mark_begins found hfound mark h hprefix]
      · rw [eq_of_mark_begins mark h found hfound hprefix]

theorem eraseFrom_skip (xs rest : List Char) :
    eraseFrom xs.length (xs ++ rest) = eraseFrom 0 rest := by
  induction xs with
  | nil => rfl
  | cons x xs ih => exact ih

/-- A text with marks, and the text that is left of it without them, whatever stands behind. -/
def Erases (marked plain : String) : Prop :=
  forall rest, eraseFrom 0 (marked.toList ++ rest) = plain.toList ++ eraseFrom 0 rest

theorem Erases.erase_eq {marked plain : String} (h : Erases marked plain) :
    erase marked = plain := by
  have hall := h []
  rw [List.append_nil, eraseFrom, List.append_nil] at hall
  rw [erase, hall, String.ofList_toList]

theorem Erases.append {marked plain marked' plain' : String} (h : Erases marked plain)
    (h' : Erases marked' plain') : Erases (marked ++ marked') (plain ++ plain') := by
  intro rest
  rw [String.toList_append, List.append_assoc, h, h', String.toList_append, List.append_assoc]

theorem Erases.mark {mark : String} (h : mark ∈ marks) : Erases mark "" := by
  intro rest
  have hfound := markAt?_append h rest
  cases hmark : mark.toList with
  | nil =>
      have hhead := head?_mark mark h
      rw [hmark] at hhead
      cases hhead
  | cons c cs =>
      rw [hmark, List.cons_append] at hfound
      have hlength : mark.length - 1 = cs.length := by rw [← String.length_toList, hmark]; rfl
      rw [List.cons_append, eraseFrom, hfound]
      dsimp only
      rw [hlength]
      exact eraseFrom_skip cs rest

theorem Erases.unmarked {text : String} (h : escape ∉ text.toList) : Erases text text := by
  intro rest
  generalize text.toList = cs at h
  induction cs with
  | nil => rfl
  | cons c cs ih =>
      have hc : (c :: (cs ++ rest)).head? ≠ some escape := by
        intro heq
        exact List.ne_of_not_mem_cons h (Option.some.inj heq).symm
      rw [List.cons_append, eraseFrom, markAt?_eq_none hc]
      exact congrArg (c :: ·) (ih (List.not_mem_of_not_mem_cons h))

end Palette

/-!
## The text of a report
-/

theorem Palette.Erases.join {f g : String -> String} {lines : List String}
    (h : forall line, line ∈ lines -> Erases (f line) (g line)) :
    Erases (String.join (lines.map f)) (String.join (lines.map g)) := by
  induction lines with
  | nil => exact .unmarked (List.not_mem_nil)
  | cons line lines ih =>
      rcases List.forall_mem_cons.mp h with ⟨hline, hlines⟩
      rw [List.map_cons, List.map_cons, String.join_cons, String.join_cons]
      exact hline.append (ih hlines)

theorem Palette.Erases.number (n : Nat) : Erases (toString n) (toString n) := by
  apply Erases.unmarked
  intro hmem
  have hdigit : escape.isDigit = true := by
    rw [Decimal.toList_toString] at hmem
    exact Decimal.isDigit_of_mem_toDigits hmem
  cases hdigit

namespace LogReport

open Palette

structure Unmarked (r : LogReport) : Prop where
  log : escape ∉ r.log.toList
  lines : forall line, line ∈ r.verdict.reportLines -> escape ∉ line.toList

theorem erases_badLinesMessage {r : LogReport} (h : r.Unmarked) :
    Erases (r.badLinesMessage .ansi) (r.badLinesMessage .plain) := by
  have hline : forall line, line ∈ r.verdict.reportLines ->
      Erases (Palette.ansi.red ++ line ++ Palette.ansi.reset ++ "\n")
        (Palette.plain.red ++ line ++ Palette.plain.reset ++ "\n") := by
    intro line hmem
    have hred : Erases Palette.ansi.red "" := .mark (by decide)
    have hreset : Erases Palette.ansi.reset "" := .mark (by decide)
    exact ((hred.append (.unmarked (h.lines line hmem))).append hreset).append
      (.unmarked (by decide))
  exact (((Erases.unmarked (by decide)).append (.join hline)).append
    (.unmarked (by decide))).append (.unmarked h.log)

theorem erases_toText {r : LogReport} (h : r.Unmarked) :
    Erases (r.toText .ansi) (r.toText .plain) := by
  have hok : Erases Palette.ansi.okWord Palette.plain.okWord :=
    ((Erases.mark (by decide)).append (.unmarked (by decide))).append (.mark (by decide))
  have hfailed : Erases Palette.ansi.failedWord Palette.plain.failedWord :=
    ((Erases.mark (by decide)).append (.unmarked (by decide))).append (.mark (by decide))
  have hlog : Erases r.log r.log := .unmarked h.log
  unfold toText
  split
  · exact ((hok.append (.unmarked (by decide))).append hlog).append (.unmarked (by decide))
  · have hnamed := (hfailed.append (.unmarked (by decide : escape ∉ " ".toList))).append hlog
    have herrors := (hnamed.append (.unmarked (by decide : escape ∉ " (".toList))).append
      (.number r.verdict.errors)
    have hwarnings := (herrors.append
      (.unmarked (by decide : escape ∉ " error(s), ".toList))).append (.number r.verdict.warnings)
    exact (hwarnings.append (.unmarked (by decide : escape ∉ " warning(s))\n".toList))).append
      (erases_badLinesMessage h)

/-!
## The lines of the message
-/

def heading : String := "Found following errors and/or warnings lines in the logfile:"

theorem heading_eq : "Found following errors and/or warnings lines in the logfile:\n" =
    heading ++ String.singleton '\n' := by
  decide

def highlighted (p : Palette) (line : String) : String := p.red ++ line ++ p.reset

theorem fields_join_lines {lines : List String}
    (h : forall line, line ∈ lines -> '\n' ∉ line.toList) (rest : String) :
    fields '\n' (String.join (lines.map (· ++ "\n")) ++ rest) = lines ++ fields '\n' rest := by
  induction lines with
  | nil => simp
  | cons line lines ih =>
      rcases List.forall_mem_cons.mp h with ⟨hline, hlines⟩
      rw [List.map_cons, String.join_cons, String.append_assoc]
      exact (fields_append hline _).trans (congrArg (line :: ·) (ih hlines))

theorem fields_badLinesMessage {r : LogReport} {p : Palette} (hp : p = .plain ∨ p = .ansi)
    (hlog : '\n' ∉ r.log.toList)
    (hlines : forall line, line ∈ r.verdict.reportLines -> '\n' ∉ line.toList) :
    fields '\n' (r.badLinesMessage p) =
      heading :: (r.verdict.reportLines.map (highlighted p) ++ ["For details see " ++ r.log]) := by
  have hmarks : '\n' ∉ p.red.toList ∧ '\n' ∉ p.reset.toList := by
    rcases hp with rfl | rfl <;> decide
  have hshown : forall line, line ∈ r.verdict.reportLines.map (highlighted p) ->
      '\n' ∉ line.toList := by
    rw [List.forall_mem_map]
    intro line hline
    simp [highlighted, hmarks, hlines line hline]
  have hdetails : '\n' ∉ ("For details see " ++ r.log).toList := by
    simp [hlog]
  have hheading : '\n' ∉ heading.toList := by decide
  have hlisted : r.verdict.reportLines.map (fun line => p.red ++ line ++ p.reset ++ "\n") =
      (r.verdict.reportLines.map (highlighted p)).map (· ++ "\n") := by
    rw [List.map_map]
    rfl
  have hmessage : r.badLinesMessage p = heading ++ String.singleton '\n' ++
      (String.join ((r.verdict.reportLines.map (highlighted p)).map (· ++ "\n")) ++
        ("For details see " ++ r.log)) := by
    unfold badLinesMessage
    rw [heading_eq, hlisted]
    exact String.append_assoc
  rw [hmessage, fields_append hheading, fields_join_lines hshown, fields_of_not_mem hdetails]

/-!
## Reports on logs
-/

/-- How many lines a report lists because the log could not be read. -/
def unreadableCount (files : Workspace) (log : String) : Nat :=
  match files.read log with
  | .ok _ => 0
  | .error _ => 1

theorem length_reportLines_scan (files : Workspace) (log : String) (ignore : Option Pattern) :
    (Log.scan files log ignore).reportLines.length =
      (Log.scan files log ignore).errors + (Log.scan files log ignore).warnings +
        unreadableCount files log := by
  have hbalanced := Log.balanced_scan files log ignore
  unfold Log.Verdict.Balanced at hbalanced
  rw [Log.Verdict.reportLines, List.length_append, hbalanced, unreadableCount]
  cases hread : files.read log with
  | ok bytes =>
    rw [Log.scan, Log.readLines_of_read hread]
    dsimp only
    rw [Log.ofLines_eq]
    rfl
  | error e =>
    rw [Log.scan, Log.readLines_of_unreadable hread]
    rfl

theorem feed_not_mem_message (e : IoError) : '\n' ∉ e.message.toList := by
  cases e <;> decide

theorem feed_not_mem_reportLines_scan (files : Workspace) {log : String}
    (hlog : '\n' ∉ log.toList) (ignore : Option Pattern) :
    forall line, line ∈ (Log.scan files log ignore).reportLines -> '\n' ∉ line.toList := by
  intro line hline
  cases hread : files.read log with
  | ok bytes =>
    rw [Log.scan, Log.readLines_of_read hread] at hline
    dsimp only at hline
    rw [Log.ofLines_eq, Log.Verdict.reportLines] at hline
    simp only [Option.toList_none, List.append_nil] at hline
    exact Log.feed_not_mem_of_mem_linesOfBytes (List.mem_filter.mp hline).1
  | error e =>
    rw [Log.scan, Log.readLines_of_unreadable hread] at hline
    cases List.mem_singleton.mp hline
    simp [hlog, feed_not_mem_message e]

def texts (r : LogReport) : List String :=
  r.log :: (r.verdict.offending ++ r.verdict.readFailure.toList)

/--
The message has a line for each line that counts and then one for the reason why the log could not
be read, if it could not, between a heading and the name of the log. Without the marks for
terminals the report is the plain one. A report on a log lists as many lines as it counts, and one
more just if the log cannot be read.
-/
theorem message_lists_what_counts (r : LogReport) :
    ((forall text, text ∈ r.texts -> '\n' ∉ text.toList) ->
      forall p, p = .plain ∨ p = .ansi ->
        fields '\n' (r.badLinesMessage p) =
          "Found following errors and/or warnings lines in the logfile:" ::
            ((r.verdict.offending ++ r.verdict.readFailure.toList).map (highlighted p) ++
              ["For details see " ++ r.log])) ∧
    ((forall text, text ∈ r.texts -> escape ∉ text.toList) ->
      erase (r.toText .ansi) = r.toText .plain) ∧
    forall files ignore, r.verdict = Log.scan files r.log ignore ->
      r.verdict.reportLines.length =
        r.verdict.errors + r.verdict.warnings + unreadableCount files r.log ∧
      ('\n' ∉ r.log.toList -> forall p, p = .plain ∨ p = .ansi ->
        (fields '\n' (r.badLinesMessage p)).length =
          2 + (r.verdict.errors + r.verdict.warnings + unreadableCount files r.log)) := by
  refine ⟨?_, ?_, ?_⟩
  · intro htexts p hp
    rcases List.forall_mem_cons.mp htexts with ⟨hlog, hlines⟩
    exact fields_badLinesMessage hp hlog hlines
  · intro htexts
    rcases List.forall_mem_cons.mp htexts with ⟨hlog, hlines⟩
    exact (erases_toText ⟨hlog, hlines⟩).erase_eq
  · intro files ignore hscan
    have hlength : r.verdict.reportLines.length =
        r.verdict.errors + r.verdict.warnings + unreadableCount files r.log := by
      rw [hscan]
      exact length_reportLines_scan files r.log ignore
    refine ⟨hlength, ?_⟩
    intro hlog p hp
    have hlines := feed_not_mem_reportLines_scan files hlog ignore
    rw [← hscan] at hlines
    rw [fields_badLinesMessage hp hlog hlines, List.length_cons, List.length_append,
      List.length_map, hlength, List.length_singleton]
    omega

def brokenOffReport : LogReport := ⟨"a.log", ⟨["an ERROR b", ""], 1, 1, some "a.log: gone"⟩⟩

theorem message_of_brokenOffReport_lists_what_counts :
    fields '\n' (brokenOffReport.badLinesMessage .ansi) =
      ["Found following errors and/or warnings lines in the logfile:",
        "\x1b[31man ERROR b\x1b[39m", "\x1b[31m\x1b[39m", "\x1b[31ma.log: gone\x1b[39m",
        "For details see a.log"] ∧
    erase (brokenOffReport.toText .ansi) = brokenOffReport.toText .plain ∧
    (fields '\n' (badLinesMessage ⟨"a.log", Log.scan .empty "a.log" none⟩ .plain)).length = 3 := by
  have hfeeds : forall text, text ∈ brokenOffReport.texts -> '\n' ∉ text.toList := by decide
  have hescapes : forall text, text ∈ brokenOffReport.texts -> escape ∉ text.toList := by decide
  rcases message_lists_what_counts brokenOffReport with ⟨hfields, herase, _hscan⟩
  rcases message_lists_what_counts ⟨"a.log", Log.scan .empty "a.log" none⟩ with
    ⟨_hfields, _herase, hscan⟩
  refine ⟨(hfields hfeeds _ (Or.inr rfl)).trans (by decide), herase hescapes, ?_⟩
  rw [(hscan .empty none rfl).2 (by decide) _ (Or.inl rfl)]
  decide

end LogReport
end AnalysisHarness
