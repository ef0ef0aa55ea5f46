import AnalysisHarness.Proofs.Json.RoundTrip
import AnalysisHarness.Proofs.Text.Entries
import AnalysisHarness.Report.LogReport

/-!
# Reports as JSON

The JSON text of a report is read back as an object that holds the whole report and nothing else,
so that the text determines the report.
-/

namespace AnalysisHarness
namespace LogReport

open Text

/-- A report whose counts fit into sixty-four bits, as counts of lines in memory do. -/
structure Counted (r : LogReport) : Prop where
  errors : r.verdict.errors < 2 ^ 64
  warnings : r.verdict.warnings < 2 ^ 64

def jsonKeys (r : LogReport) : List String :=
  ["log", "clean", "offending", "errors", "warnings"] ++
    if r.verdict.readFailure.isSome then ["read_failure"] else []

/-- An object that holds a report and nothing else. -/
structure HeldBy (r : LogReport) (members : Keyed Json) : Prop where
  keys : members.keys.Perm r.jsonKeys
  log : members.find? "log" = some (.string r.log)
  clean : members.find? "clean" = some (.bool r.isClean)
  offending : members.find? "offending" = some (.array (r.verdict.offending.map .string))
  errors : members.find? "errors" = some (.number (.natural r.verdict.errors))
  warnings : members.find? "warnings" = some (.number (.natural r.verdict.warnings))
  readFailure : members.find? "read_failure" = r.verdict.readFailure.map .string

theorem fits_toJsonValue {r : LogReport} (h : r.Counted) :
    Json.Fits Json.depthLimit r.toJsonValue := by
  apply Json.Fits.object
  intro member hmember
  simp only [List.mem_append, List.mem_cons, List.mem_map, Option.mem_toList, List.not_mem_nil,
    or_false] at hmember
  rcases hmember with (rfl | rfl | rfl | rfl | rfl) | ⟨reason, _hreason, rfl⟩
  · exact .string
  · exact .bool
  · apply Json.Fits.array
    intro item hitem
    rcases List.mem_map.mp hitem with ⟨line, _hline, rfl⟩
    exact .string
  · exact .number (.natural h.errors)
  · exact .number (.natural h.warnings)
  · exact .string

theorem allInKeyOrder_strings (lines : List String) :
    Json.allInKeyOrder (lines.map .string) = lines.map .string := by
  induction lines with
  | nil => rfl
  | cons line lines ih =>
      rw [List.map_cons, Json.allInKeyOrder, ih]
      rfl

def printedMembers (r : LogReport) : List (String × Json) := [
    ("log", .string r.log),
    ("clean", .bool r.isClean),
    ("offending", .array (r.verdict.offending.map .string)),
    ("errors", .number (.natural r.verdict.errors)),
    ("warnings", .number (.natural r.verdict.warnings))] ++
  r.verdict.readFailure.toList.map fun reason => ("read_failure", .string reason)

theorem inKeyOrder_toJsonValue (r : LogReport) :
    r.toJsonValue.inKeyOrder = .object (Keyed.ofPairs r.printedMembers) := by
  have hlines := allInKeyOrder_strings r.verdict.offending
  unfold toJsonValue printedMembers
  cases r.verdict.readFailure <;>
    simp [Json.inKeyOrder, Json.membersInKeyOrder, hlines]

theorem map_fst_printedMembers (r : LogReport) :
    r.printedMembers.map Prod.fst = r.jsonKeys := by
  unfold printedMembers jsonKeys
  cases r.verdict.readFailure <;> rfl

theorem nodup_jsonKeys (r : LogReport) : r.jsonKeys.Nodup := by
  unfold jsonKeys
  cases r.verdict.readFailure <;> simp

theorem heldBy_printedMembers (r : LogReport) : r.HeldBy (Keyed.ofPairs r.printedMembers) := by
  have hdistinct : (r.printedMembers.map Prod.fst).Nodup := by
    rw [map_fst_printedMembers]
    exact nodup_jsonKeys r
  have hkept := Keyed.perm_ofPairs hdistinct
  have hkeys : (Keyed.ofPairs r.printedMembers).keys.Perm r.jsonKeys := by
    rw [← map_fst_printedMembers]
    exact hkept.map Prod.fst
  have hfind : forall {key value}, (key, value) ∈ r.printedMembers ->
      (Keyed.ofPairs r.printedMembers).find? key = some value := by
    intro key value hmem
    exact Keyed.find?_of_mem (hkeys.nodup_iff.mpr (nodup_jsonKeys r)) (hkept.mem_iff.mpr hmem)
  have hfailure : (Keyed.ofPairs r.printedMembers).find? "read_failure" =
      r.verdict.readFailure.map .string := by
    cases hreason : r.verdict.readFailure with
    | none =>
        apply Keyed.find?_eq_none_of_not_mem_keys
        rw [hkeys.mem_iff]
        simp [jsonKeys, hreason]
    | some reason =>
        apply hfind
        simp [printedMembers, hreason]
  exact
    { keys := hkeys
      log := hfind (by simp [printedMembers])
      clean := hfind (by simp [printedMembers])
      offending := hfind (by simp [printedMembers])
      errors := hfind (by simp [printedMembers])
      warnings := hfind (by simp [printedMembers])
      readFailure := hfailure }

theorem eq_of_heldBy {r other : LogReport} {members : Keyed Json} (h : r.HeldBy members)
    (hother : other.HeldBy members) : other = r := by
  have hlog := hother.log.symm.trans h.log
  have hoffending := hother.offending.symm.trans h.offending
  have herrors := hother.errors.symm.trans h.errors
  have hwarnings := hother.warnings.symm.trans h.warnings
  have hfailure := hother.readFailure.symm.trans h.readFailure
  have hstring : Function.Injective Json.string := fun _ _ heq => Json.string.inj heq
  simp only [Option.some.injEq, Json.string.injEq, Json.array.injEq, Json.number.injEq,
    Json.Number.natural.injEq] at hlog hoffending herrors hwarnings
  have hlines := List.map_injective_iff.mpr hstring hoffending
  have hreason := Option.map_injective hstring hfailure
  rcases r with ⟨log, offending, errors, warnings, readFailure⟩
  rcases other with ⟨log', offending', errors', warnings', readFailure'⟩
  cases hlog
  cases hlines
  cases herrors
  cases hwarnings
  cases hreason
  rfl

/--
The JSON text of a report is read back as an object that holds the report, and every other report
has another text.
-/
theorem toJson_loses_nothing {r : LogReport} (h : r.Counted) :
    (exists members, Json.read r.toJson = .ok (.object members) ∧ r.HeldBy members) ∧
    forall other : LogReport, other.Counted -> other ≠ r -> other.toJson ≠ r.toJson := by
  have hread : forall {s : LogReport}, s.Counted ->
      exists members, Json.read s.toJson = .ok (.object members) ∧ s.HeldBy members := by
    intro s hs
    refine ⟨Keyed.ofPairs s.printedMembers, ?_, heldBy_printedMembers s⟩
    rw [← inKeyOrder_toJsonValue]
    exact Json.read_pretty (fits_toJsonValue hs)
  constructor
  · exact hread h
  · intro other hother hne htext
    rcases hread h with ⟨members, hmembers, hheld⟩
    rcases hread hother with ⟨members', hmembers', hheld'⟩
    rw [htext, hmembers] at hmembers'
    cases hmembers'
    exact hne (eq_of_heldBy hheld hheld')

def oddReport : LogReport :=
  ⟨"a \"b\".log", ⟨["\x01 ERROR \\ é", "\t WARN 😀"], 1, 1, some "gone\n"⟩⟩

def exchangedReport : LogReport :=
  ⟨"a \"b\".log", ⟨["\t WARN 😀", "\x01 ERROR \\ é"], 1, 1, some "gone\n"⟩⟩

theorem toJson_of_oddReport_loses_nothing :
    oddReport.Counted ∧ exchangedReport.Counted ∧ exchangedReport ≠ oddReport ∧
    (exists members, Json.read oddReport.toJson = .ok (.object members) ∧
      oddReport.HeldBy members) ∧
    exchangedReport.toJson ≠ oddReport.toJson := by
  have hodd : oddReport.Counted := ⟨by decide, by decide⟩
  have hexchanged : exchangedReport.Counted := ⟨by decide, by decide⟩
  have hne : exchangedReport ≠ oddReport := by decide
  rcases toJson_loses_nothing hodd with ⟨hread, hother⟩
  exact ⟨hodd, hexchanged, hne, hread, hother exchangedReport hexchanged hne⟩

end LogReport
end AnalysisHarness
