import AnalysisHarness.CommandLine.Execution
import AnalysisHarness.Proofs.Journal
import AnalysisHarness.Proofs.Log.Verdict
import AnalysisHarness.Proofs.Report.Rendering
import AnalysisHarness.Proofs.Text.Ends
import Mathlib.Tactic.TFAE

/-!
# All views of a log agree

Whether a log is clean is said by its verdict, by the counts, by the lines that are listed, by the
check, by both renderings and by the exit code of the command. They all say the same, also of a
log that cannot be read, for which nothing is counted.
-/

namespace AnalysisHarness

open Text

/-!
## Verdicts
-/

namespace Log

def Verdict.Balanced (v : Verdict) : Prop :=
  v.offending.length = v.errors + v.warnings

theorem balanced_ofLines (ignore : Option Pattern) (lines : List String) :
    (Verdict.ofLines ignore lines).Balanced := by
  unfold Verdict.Balanced
  induction lines with
  | nil => rfl
  | cons line lines ih =>
      rw [Verdict.ofLines]
      cases classify ignore line with
      | error =>
          simp only [Verdict.cons, List.length_cons, ih]
          omega
      | warning =>
          simp only [Verdict.cons, List.length_cons, ih]
          omega
      | warningIgnored => exact ih
      | normal => exact ih

theorem balanced_scan (files : Workspace) (log : String) (ignore : Option Pattern) :
    (scan files log ignore).Balanced := by
  unfold scan
  cases readLines files log with
  | error e => rfl
  | ok lines => exact balanced_ofLines ignore lines

theorem isClean_iff_counts {v : Verdict} (h : v.Balanced) :
    v.isClean = true <-> v.errors + v.warnings = 0 ∧ v.readFailure = none := by
  unfold Verdict.isClean
  rw [Bool.and_eq_true, List.isEmpty_iff_length_eq_zero, h, Option.isNone_iff_eq_none]

theorem isClean_iff_reportLines (v : Verdict) : v.isClean = true <-> v.reportLines = [] := by
  unfold Verdict.isClean Verdict.reportLines
  simp

theorem isClean_scan_iff (files : Workspace) (log : String) (ignore : Option Pattern) :
    (scan files log ignore).isClean = true <->
      exists lines, readLines files log = .ok lines ∧
        forall line, line ∈ lines ->
          classify ignore line ≠ .error ∧ classify ignore line ≠ .warning := by
  unfold scan
  cases readLines files log with
  | error e =>
      constructor
      · intro hclean
        cases hclean
      · rintro ⟨lines, hlines, _hnone⟩
        cases hlines
  | ok lines =>
      show (Verdict.ofLines ignore lines).isClean = true <-> _
      rw [isClean_ofLines_iff]
      constructor
      · intro hnone
        exact ⟨lines, rfl, hnone⟩
      · rintro ⟨lines', hlines, hnone⟩
        cases hlines
        exact hnone

end Log

/-!
## Reports
-/

namespace LogReport

theorem check_eq_ok_iff (r : LogReport) : r.check = .ok () <-> r.isClean = true := by
  unfold check
  cases r.isClean <;> simp

theorem words_differ {p : Palette} (hp : p = .plain ∨ p = .ansi) :
    (exists pair, pair ∈ p.failedWord.toList.zip p.okWord.toList ∧ pair.1 ≠ pair.2) ∧
    exists pair, pair ∈ p.okWord.toList.zip p.failedWord.toList ∧ pair.1 ≠ pair.2 := by
  rcases hp with rfl | rfl
  · exact ⟨⟨('F', 'O'), by decide, by decide⟩, ⟨('O', 'F'), by decide, by decide⟩⟩
  · exact ⟨⟨('1', '2'), by decide, by decide⟩, ⟨('2', '1'), by decide, by decide⟩⟩

theorem toText_begins_iff (r : LogReport) {p : Palette} (hp : p = .plain ∨ p = .ansi) :
    (startsWith p.okWord (r.toText p) = true ∧ startsWith p.failedWord (r.toText p) = false) <->
      r.isClean = true := by
  rcases words_differ hp with ⟨hfailed, hok⟩
  unfold toText
  cases hclean : r.isClean with
  | true =>
      simp only [if_true, String.append_assoc, startsWith_append,
        startsWith_append_of_differ hfailed, and_self]
  | false =>
      simp only [Bool.false_eq_true, if_false, String.append_assoc,
        startsWith_append_of_differ hok, false_and]

def printedForms (r : LogReport) : List (List Json.StringUnit × Json.Form) := [
    (Json.printedUnits "log", .string (Json.printedUnits r.log)),
    (Json.printedUnits "clean", .bool r.isClean),
    (Json.printedUnits "offending",
      .array (r.verdict.offending.map fun line => .string (Json.printedUnits line))),
    (Json.printedUnits "errors", .number (Json.integerText false r.verdict.errors)),
    (Json.printedUnits "warnings", .number (Json.integerText false r.verdict.warnings))] ++
  r.verdict.readFailure.toList.map fun reason =>
    (Json.printedUnits "read_failure", .string (Json.printedUnits reason))

theorem forms?_strings (lines : List String) :
    Json.forms? (lines.map .string) =
      some (lines.map fun line => .string (Json.printedUnits line)) := by
  induction lines with
  | nil => rfl
  | cons line lines ih => simp [Json.forms?, Json.form?, ih]

theorem form?_toJsonValue (r : LogReport) :
    Json.form? r.toJsonValue = some (.object r.printedForms) := by
  have hlines := forms?_strings r.verdict.offending
  unfold toJsonValue printedForms
  cases r.verdict.readFailure <;>
    simp [Json.form?, Json.memberForms?, Json.Number.text?, hlines]

def SaysClean (text : String) : Prop :=
  exists members, Json.Form.read text.toList = .ok (.object members) ∧
    members.filterMap (fun member => if member.1 = Json.printedUnits "clean" then
      some member.2 else none) = [.bool true]

theorem cleanMembers_printedForms (r : LogReport) :
    (r.printedForms.filterMap fun member => if member.1 = Json.printedUnits "clean" then
      some member.2 else none) = [.bool r.isClean] := by
  have hlog : Json.printedUnits "log" ≠ Json.printedUnits "clean" := by decide
  have hoffending : Json.printedUnits "offending" ≠ Json.printedUnits "clean" := by decide
  have herrors : Json.printedUnits "errors" ≠ Json.printedUnits "clean" := by decide
  have hwarnings : Json.printedUnits "warnings" ≠ Json.printedUnits "clean" := by decide
  have hfailure : Json.printedUnits "read_failure" ≠ Json.printedUnits "clean" := by decide
  unfold printedForms
  cases r.verdict.readFailure <;>
    simp [hlog, hoffending, herrors, hwarnings, hfailure]

theorem saysClean_toJson_iff (r : LogReport) : SaysClean r.toJson <-> r.isClean = true := by
  have hread : Json.Form.read r.toJson.toList = .ok (.object r.printedForms) := by
    unfold toJson Json.pretty
    rw [String.toList_ofList]
    exact Json.Form.read_write Json.blank_indented (form?_toJsonValue r)
  unfold SaysClean
  rw [hread]
  constructor
  · rintro ⟨members, heq, hclean⟩
    cases heq
    rw [cleanMembers_printedForms] at hclean
    simpa using hclean
  · intro hclean
    refine ⟨r.printedForms, rfl, ?_⟩
    rw [cleanMembers_printedForms, hclean]

def cleanViews (p : Palette) (files : Workspace) (log : String) (ignore : Option Pattern) :
    List Prop :=
  let r : LogReport := ⟨log, Log.scan files log ignore⟩
  [ exists lines, Log.readLines files log = .ok lines ∧
      forall line, line ∈ lines ->
        Log.classify ignore line ≠ .error ∧ Log.classify ignore line ≠ .warning,
    r.isClean = true,
    r.verdict.errors + r.verdict.warnings = 0 ∧ r.verdict.readFailure = none,
    r.verdict.reportLines = [],
    r.check = .ok (),
    startsWith p.okWord (r.toText p) = true ∧ startsWith p.failedWord (r.toText p) = false,
    SaysClean r.toJson ]

theorem iff_isClean_of_mem_cleanViews {p : Palette} (hp : p = .plain ∨ p = .ansi)
    {files : Workspace} {log : String} {ignore : Option Pattern} {view : Prop}
    (h : view ∈ cleanViews p files log ignore) :
    view <-> (Log.scan files log ignore).isClean = true := by
  have hbalanced := Log.balanced_scan files log ignore
  simp only [cleanViews, List.mem_cons, List.not_mem_nil, or_false] at h
  rcases h with rfl | rfl | rfl | rfl | rfl | rfl | rfl
  · exact (Log.isClean_scan_iff files log ignore).symm
  · exact Iff.rfl
  · exact (Log.isClean_iff_counts hbalanced).symm
  · exact (Log.isClean_iff_reportLines _).symm
  · exact check_eq_ok_iff _
  · exact toText_begins_iff _ hp
  · exact saysClean_toJson_iff _

end LogReport

/-!
## Exit codes
-/

namespace CommandLine

open LogReport Surroundings

/-- A file of patterns that cannot be read as a text, or whose text is not made of patterns. -/
inductive UnusableIgnoreFile (files : Workspace) : Option String -> Prop
  | unreadable {path : String} {e : IoError} (h : files.read path = .error e) :
      UnusableIgnoreFile files (some path)
  | notText {path : String} {bytes : Bytes} (h : files.read path = .ok bytes)
      (hbytes : decodeStrict bytes = none) : UnusableIgnoreFile files (some path)
  | notPatterns {path text : String} {e : Pattern.ReadError}
      (h : files.readText path = .ok text) (htext : Pattern.ofIgnoreText text = .error e) :
      UnusableIgnoreFile files (some path)

theorem readText_eq_error_iff {files : Workspace} {path : String} :
    (exists e, files.readText path = .error e) <->
      (exists e, files.read path = .error e) ∨
        exists bytes, files.read path = .ok bytes ∧ decodeStrict bytes = none := by
  unfold Workspace.readText
  cases hread : files.read path with
  | error e =>
      constructor
      · intro _
        exact Or.inl ⟨e, rfl⟩
      · intro _
        exact ⟨e, rfl⟩
  | ok bytes =>
      simp only [bind, Except.bind]
      cases hbytes : decodeStrict bytes with
      | none =>
          constructor
          · intro _
            exact Or.inr ⟨bytes, rfl, hbytes⟩
          · intro _
            exact ⟨.notUtf8, rfl⟩
      | some text =>
          constructor
          · rintro ⟨e, he⟩
            cases he
          · rintro (⟨e, he⟩ | ⟨bytes', heq, hnone⟩)
            · cases he
            · cases heq
              rw [hbytes] at hnone
              cases hnone

theorem readIgnoreFile_of_readText_error {files : Workspace} {path : String} {e : IoError}
    (h : files.readText path = .error e) : readIgnoreFile files (some path) = .error (.io e) := by
  show Failure.ofIo (files.readText path) >>= _ = _
  rw [h]
  rfl

theorem readIgnoreFile_of_readText_ok {files : Workspace} {path text : String}
    (h : files.readText path = .ok text) :
    readIgnoreFile files (some path) = Failure.ofPattern (Pattern.ofIgnoreText text) := by
  show Failure.ofIo (files.readText path) >>= _ = _
  rw [h]
  rfl

theorem unusable_of_readIgnoreFile_eq_error {files : Workspace} {ignoreFile : Option String}
    {e : Failure} (h : readIgnoreFile files ignoreFile = .error e) :
    UnusableIgnoreFile files ignoreFile ∧ e.exitCode = 3 := by
  cases ignoreFile with
  | none => cases h
  | some path =>
      cases htext : files.readText path with
      | error reason =>
          rw [readIgnoreFile_of_readText_error htext] at h
          cases h
          refine ⟨?_, rfl⟩
          rcases readText_eq_error_iff.mp ⟨reason, htext⟩ with
            ⟨e, hread⟩ | ⟨bytes, hread, hbytes⟩
          · exact .unreadable hread
          · exact .notText hread hbytes
      | ok text =>
          rw [readIgnoreFile_of_readText_ok htext] at h
          cases hpattern : Pattern.ofIgnoreText text with
          | error reason =>
              rw [hpattern] at h
              cases h
              exact ⟨.notPatterns htext hpattern, rfl⟩
          | ok ignore =>
              rw [hpattern] at h
              cases h

theorem readIgnoreFile_ne_ok_of_unusable {files : Workspace} {ignoreFile : Option String}
    (h : UnusableIgnoreFile files ignoreFile) (ignore : Option Pattern) :
    readIgnoreFile files ignoreFile ≠ .ok ignore := by
  intro hok
  have hrefused : forall {path}, (exists e, files.readText path = .error e) ->
      readIgnoreFile files (some path) ≠ .ok ignore := by
    rintro path ⟨e, htext⟩ hok
    rw [readIgnoreFile_of_readText_error htext] at hok
    cases hok
  cases h with
  | unreadable hread => exact hrefused (readText_eq_error_iff.mpr (Or.inl ⟨_, hread⟩)) hok
  | notText hread hbytes =>
      exact hrefused (readText_eq_error_iff.mpr (Or.inr ⟨_, hread, hbytes⟩)) hok
  | notPatterns htext hpattern =>
      rw [readIgnoreFile_of_readText_ok htext, hpattern] at hok
      cases hok

/-- With a usable file of patterns the exit code says whether the log is clean. -/
theorem exitCode_checkLog [Wording] {s : Session} {ignoreFile : Option String}
    {ignore : Option Pattern} (h : readIgnoreFile s.files ignoreFile = .ok ignore)
    (around : Surroundings) (p : Palette) (log : String) (format : ReportFormat) :
    (Command.execute around p s (.checkLog log ignoreFile format)).exitCode =
      if (Log.scan s.files log ignore).isClean then 0 else 1 := by
  rw [Command.execute, h]
  show (Ending.ofBool (Log.scan s.files log ignore).isClean).exitCode = _
  cases (Log.scan s.files log ignore).isClean <;> rfl

theorem exitCode_checkLog_of_error [Wording] {s : Session} {ignoreFile : Option String}
    {e : Failure} (h : readIgnoreFile s.files ignoreFile = .error e)
    (around : Surroundings) (p : Palette) (log : String) (format : ReportFormat) :
    (Command.execute around p s (.checkLog log ignoreFile format)).exitCode = 3 := by
  rw [Command.execute, h]
  exact (unusable_of_readIgnoreFile_eq_error h).2

/--
All views of a log agree, whatever the log holds and whether or not it can be read, and the exit
code agrees with them unless there is no usable file of patterns.
-/
theorem checkLog_agrees_with_views [Wording] {p : Palette} (hp : p = .plain ∨ p = .ansi)
    (around : Surroundings) (s : Session) (log : String) (ignoreFile : Option String)
    (format : ReportFormat) :
    let code := (Command.execute around p s (.checkLog log ignoreFile format)).exitCode
    (forall ignore, (cleanViews p s.files log ignore).TFAE) ∧
    (forall ignore, readIgnoreFile s.files ignoreFile = .ok ignore ->
      ((code = 0) :: cleanViews p s.files log ignore).TFAE ∧
      (code = 1 <-> (Log.scan s.files log ignore).isClean = false)) ∧
    (code = 3 <-> UnusableIgnoreFile s.files ignoreFile) := by
  intro code
  refine ⟨?_, ?_, ?_⟩
  · intro ignore
    apply List.tfae_of_forall ((Log.scan s.files log ignore).isClean = true)
    intro view hview
    exact iff_isClean_of_mem_cleanViews hp hview
  · intro ignore hignore
    have hcode : code = if (Log.scan s.files log ignore).isClean then 0 else 1 :=
      exitCode_checkLog hignore around p log format
    constructor
    · apply List.tfae_of_forall ((Log.scan s.files log ignore).isClean = true)
      intro view hview
      rcases List.mem_cons.mp hview with rfl | hview
      · rw [hcode]
        cases (Log.scan s.files log ignore).isClean <;> simp
      · exact iff_isClean_of_mem_cleanViews hp hview
    · rw [hcode]
      cases (Log.scan s.files log ignore).isClean <;> simp
  · cases hignore : readIgnoreFile s.files ignoreFile with
    | error e =>
        have hcode : code = 3 := exitCode_checkLog_of_error hignore around p log format
        have hunusable := (unusable_of_readIgnoreFile_eq_error hignore).1
        exact ⟨fun _ => hunusable, fun _ => hcode⟩
    | ok ignore =>
        have hcode : code = if (Log.scan s.files log ignore).isClean then 0 else 1 :=
          exitCode_checkLog hignore around p log format
        constructor
        · intro hthree
          rw [hcode] at hthree
          split at hthree <;> cases hthree
        · intro hunusable
          exact absurd hignore (readIgnoreFile_ne_ok_of_unusable hunusable ignore)

def disturbedLog : Session :=
  .start ([("a.log", "a WARN b\nan ERROR c\n"), ("ignored", "a WARN\n")].foldl
    (fun files file => (files.writeWithin file.1 (encode file.2)).toOption.getD files) .empty)

attribute [local instance] Wording.sample

theorem checkLog_of_disturbedLog_agrees :
    exists ignore, readIgnoreFile disturbedLog.files (some "ignored") = .ok (some ignore) ∧
      Log.scan disturbedLog.files "a.log" (some ignore) = ⟨["an ERROR c"], 1, 0, none⟩ ∧
      (cleanViews .ansi disturbedLog.files "a.log" (some ignore)).TFAE ∧
      (Command.execute (scripted []) .ansi disturbedLog
        (.checkLog "a.log" (some "ignored") .json)).exitCode = 1 ∧
      ¬UnusableIgnoreFile disturbedLog.files (some "ignored") := by
  have hread : disturbedLog.files.readText "ignored" = .ok "a WARN\n" := by decide +kernel
  have hignore : exists ignore, Pattern.ofIgnoreText "a WARN\n" = .ok (some ignore) ∧
      Log.scan disturbedLog.files "a.log" (some ignore) = ⟨["an ERROR c"], 1, 0, none⟩ := by
    refine ⟨_, rfl, ?_⟩
    decide +kernel
  rcases hignore with ⟨ignore, hpattern, hverdict⟩
  have husable : readIgnoreFile disturbedLog.files (some "ignored") = .ok (some ignore) := by
    rw [readIgnoreFile_of_readText_ok hread, hpattern]
    rfl
  have hagree := checkLog_agrees_with_views (Or.inr rfl) (scripted []) disturbedLog "a.log"
    (some "ignored") .json
  have hone := ((hagree.2.1 (some ignore) husable).2).mpr (by rw [hverdict]; rfl)
  refine ⟨ignore, husable, hverdict, hagree.1 (some ignore), hone, ?_⟩
  intro hunusable
  exact readIgnoreFile_ne_ok_of_unusable hunusable (some ignore) husable

end CommandLine
end AnalysisHarness
