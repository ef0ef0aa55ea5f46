import AnalysisHarness.Proofs.Measures.Contradiction
import AnalysisHarness.Proofs.Measures.Entries
import AnalysisHarness.Proofs.Measures.Exactness
import AnalysisHarness.Proofs.Toml.Integer
import AnalysisHarness.Scenario.Run

/-!
# Counts that are expected

A count of violations can be expected by a number of its own in a scenario, by a number or a text
among the metrics of a scenario, and by a pair or an entry of the command line. An integer is
rounded to double precision directly in the first case and by way of its decimal text in the
others. Both come to the same number, also where double precision cannot hold the integer.
-/

namespace AnalysisHarness

/-!
## Integers as texts
-/

section Texts

variable {n : Int}

/-- The decimal text of an integer of sixty-four bits is rounded as the integer is. -/
theorem Decimal.read_toString (hlow : -2 ^ 63 ≤ n) (hhigh : n < 2 ^ 63) :
    Decimal.read (toString n).toList = some (.ofInt n) := by
  rcases exists_sign_toString n with ⟨sign, hsign, htext⟩
  have hbound : n.natAbs < 2 ^ 64 := by omega
  rw [htext, Json.read_integer hbound hsign]
  rfl

theorem Decimal.solid_toString (n : Int) : Solid (toString n).toList := by
  rcases exists_sign_toString n with ⟨sign, hsign, htext⟩
  rw [htext]
  generalize decide (n < 0) = negative at hsign
  cases hsign with
  | none => exact solid_toDigits n.natAbs
  | plus => exact (solid_toDigits n.natAbs).cons rfl
  | minus => exact (solid_toDigits n.natAbs).cons rfl

namespace Measures

theorem Expected.read_toString (hlow : -2 ^ 63 ≤ n) (hhigh : n < 2 ^ 63) :
    Expected.read (toString n) = .ok (.value (.ofInt n)) := by
  apply Expected.read_of_number
  rw [trimChars_of_solid (Decimal.solid_toString n)]
  exact Decimal.read_toString hlow hhigh

theorem expectedFromPairs_count (hlow : -2 ^ 63 ≤ n) (hhigh : n < 2 ^ 63) :
    expectedFromPairs [("violations", toString n)] = .ok (expectedViolations (.ofInt n)) := by
  have hread : readPairs [("violations", toString n)] =
      .ok [("violations", .value (.ofInt n))] := by
    rw [readPairs, mapM_eq_ok_iff]
    exact .cons (bind_eq_ok (Expected.read_toString hlow hhigh) rfl) .nil
  exact bind_eq_ok hread rfl

theorem expectedFromEntries_count (hlow : -2 ^ 63 ≤ n) (hhigh : n < 2 ^ 63) :
    expectedFromEntries none ["violations=" ++ toString n] =
      .ok (expectedViolations (.ofInt n)) := by
  have hassigns : Assigns ("violations=" ++ toString n) "violations" (toString n) :=
    ⟨"violations", rfl, by decide, by decide⟩
  have hdemands : Demands ("violations=" ++ toString n) ("violations", .value (.ofInt n)) :=
    ⟨toString n, hassigns, Expected.read_toString hlow hhigh⟩
  apply expectedFromEntries_eq_ok_iff.mpr
  refine ⟨[], expectedViolations (.ofInt n), rfl, ?_, rfl, List.cons_ne_nil _ _⟩
  exact readEntries_eq_ok_iff.mpr ⟨_, .cons hdemands .nil, rfl⟩

/-!
## Checks of a count
-/

theorem check_eq_ok_iff (around : Surroundings) (server project : String)
    (expected : ExpectedSet) (s : Session) :
    (check around server project expected s).1 = .ok () <->
      exists body measured,
        around.answer s.requests.length (measuresUrl server project expected.keys) = .ok body ∧
        readMeasures body = .ok measured ∧ diff expected measured = [] := by
  cases hanswer : around.answer s.requests.length (measuresUrl server project expected.keys) with
  | error e => simp [check, fetch, Surroundings.get, hanswer]
  | ok body =>
      cases hread : readMeasures body with
      | error e => simp [check, fetch, Surroundings.get, hanswer, hread]
      | ok measured =>
          rw [check_of_answer hanswer hread, compare_eq_ok_iff]
          simp [hread]

theorem diff_expectedViolations_eq_nil_iff (count : Binary64) (measured : MeasuredSet) :
    diff (expectedViolations count) measured = [] <->
      Meets (.value count) (measured.find? "violations") := by
  rw [← matchesExpected_iff]
  unfold diff expectedViolations
  cases hmatches : matchesExpected (.value count) (measured.find? "violations") with
  | true => simp [hmatches]
  | false => simp [hmatches]

end Measures

end Texts

namespace Scenario

open Toml

/-!
## Counts in scenarios
-/

inductive Asks (document : Value) (place : Nat) (name : String) (v : Value) : Prop
  | intro {fields inner : Fields} {expect : Value} :
      Fields.ofValue document = .ok fields ->
      fields.find? 2 "expect" = some expect ->
      Fields.ofValue (tabular expect) = .ok inner ->
      inner.find? place name = some v ->
      Asks document place name v

section Fields

variable {document v : Value} {scenario : Scenario} {place : Nat} {name : String}

theorem optional_of_find? {α : Type} {fields : Fields} (hfield : fields.find? place name = some v)
    (read : Value -> Except Misfit α) :
    fields.optional place name read = (read v).map some := by
  unfold Fields.optional
  rw [hfield]

theorem exists_expectations_of_asks (hscenario : ofValue document = .ok scenario)
    (h : Asks document place name v) :
    exists expect inner, readExpectations expect = .ok scenario.expect ∧
      Fields.ofValue (tabular expect) = .ok inner ∧ inner.find? place name = some v := by
  cases h with
  | intro hfields hexpect hinner hfield =>
      rename_i fields inner expect
      refine ⟨expect, inner, ?_, hinner, hfield⟩
      unfold ofValue at hscenario
      rcases exists_of_bind_eq_ok hscenario with ⟨fields', hfields', hscenario⟩
      cases Except.ok.inj (hfields.symm.trans hfields')
      rcases exists_of_bind_eq_ok hscenario with ⟨project, _hproject, hscenario⟩
      rcases exists_of_bind_eq_ok hscenario with ⟨command, _hcommand, hscenario⟩
      rcases exists_of_bind_eq_ok hscenario with ⟨expectations, hexpectations, hscenario⟩
      cases hscenario
      unfold Fields.withDefault at hexpectations
      rw [hexpect] at hexpectations
      exact hexpectations

theorem fields_of_readExpectations {expect : Value} {expectations : Expectations} {inner : Fields}
    (h : readExpectations expect = .ok expectations)
    (hinner : Fields.ofValue (tabular expect) = .ok inner) :
    inner.optional 6 "violations" asNumber = .ok expectations.violations ∧
      inner.optional 7 "metrics" asTable = .ok expectations.metrics := by
  unfold readExpectations at h
  -- all fields have been read, one after another; two of them matter here
  rcases exists_of_bind_eq_ok h with ⟨fields, hfields, h⟩
  cases Except.ok.inj (hinner.symm.trans hfields)
  rcases exists_of_bind_eq_ok h with ⟨exit, _hexit, h⟩
  rcases exists_of_bind_eq_ok h with ⟨backgroundTask, _hbackgroundTask, h⟩
  rcases exists_of_bind_eq_ok h with ⟨logClean, _hlogClean, h⟩
  rcases exists_of_bind_eq_ok h with ⟨logIgnore, _hlogIgnore, h⟩
  rcases exists_of_bind_eq_ok h with ⟨serverLogClean, _hserverLogClean, h⟩
  rcases exists_of_bind_eq_ok h with ⟨logContains, _hlogContains, h⟩
  rcases exists_of_bind_eq_ok h with ⟨violations, hviolations, h⟩
  rcases exists_of_bind_eq_ok h with ⟨metrics, hmetrics, h⟩
  rcases exists_of_bind_eq_ok h with ⟨testMetrics, _htestMetrics, h⟩
  cases h
  exact ⟨hviolations, hmetrics⟩

theorem violations_of_asks {n : Int} (hscenario : ofValue document = .ok scenario)
    (h : Asks document 6 "violations" (.integer n)) :
    scenario.expect.violations = some (.ofInt n) := by
  rcases exists_expectations_of_asks hscenario h with ⟨expect, inner, hread, hinner, hfield⟩
  have hviolations := (fields_of_readExpectations hread hinner).1
  rw [optional_of_find? hfield] at hviolations
  exact (Except.ok.inj hviolations).symm

theorem metrics_of_asks {entries : Text.Keyed Value}
    (hscenario : ofValue document = .ok scenario)
    (h : Asks document 7 "metrics" (.table entries)) :
    scenario.expect.metrics = some entries := by
  rcases exists_expectations_of_asks hscenario h with ⟨expect, inner, hread, hinner, hfield⟩
  have hmetrics := (fields_of_readExpectations hread hinner).2
  rw [optional_of_find? hfield] at hmetrics
  exact (Except.ok.inj hmetrics).symm

end Fields

inductive Stands (n : Int) : Value -> Prop
  | number : Stands n (.integer n)
  | text : Stands n (.string (toString n))

theorem expectedMetrics_of_stands {n : Int} {v : Value} (h : Stands n v) (metric : String) :
    expectedMetrics [(metric, v)] = Measures.expectedFromPairs [(metric, toString n)] := by
  have htext : metricText metric v = .ok (toString n) := by
    cases h <;> rfl
  unfold expectedMetrics
  simp only [List.mapM_cons, List.mapM_nil, htext, bind, Except.bind, pure, Except.pure]

/-- The ways to expect a count, each with what comes of it. -/
inductive ExpectsCount (n : Int) : Except Failure Measures.ExpectedSet -> Prop
  | field {document : Value} {scenario : Scenario} {count : Binary64} :
      ofValue document = .ok scenario ->
      Asks document 6 "violations" (.integer n) ->
      scenario.expect.violations = some count ->
      ExpectsCount n (.ok (Measures.expectedViolations count))
  | metric {document v : Value} {scenario : Scenario} {table : Text.Keyed Value} :
      ofValue document = .ok scenario ->
      Stands n v ->
      Asks document 7 "metrics" (.table [("violations", v)]) ->
      scenario.expect.metrics = some table ->
      ExpectsCount n (expectedMetrics table)
  | pair : ExpectsCount n (Measures.expectedFromPairs [("violations", toString n)])
  | entry : ExpectsCount n (Measures.expectedFromEntries none ["violations=" ++ toString n])

theorem eq_of_expectsCount {n : Int} (hlow : -2 ^ 63 ≤ n) (hhigh : n < 2 ^ 63)
    {expected : Except Failure Measures.ExpectedSet} (h : ExpectsCount n expected) :
    expected = .ok (Measures.expectedViolations (.ofInt n)) := by
  cases h with
  | field hscenario hasks hcount =>
      rw [violations_of_asks hscenario hasks] at hcount
      rw [Option.some.inj hcount]
  | metric hscenario hstands hasks htable =>
      rw [metrics_of_asks hscenario hasks] at htable
      rw [← Option.some.inj htable, expectedMetrics_of_stands hstands]
      exact Measures.expectedFromPairs_count hlow hhigh
  | pair => exact Measures.expectedFromPairs_count hlow hhigh
  | entry => exact Measures.expectedFromEntries_count hlow hhigh

def singleDocument (project command name : String) (v : Value) : Value :=
  .table [("command", .string command), ("expect", .table [(name, v)]),
    ("project", .string project)]

/--
Every integer of sixty-four bits can be written in a scenario, as a count and among the metrics.
Whichever way it is expected, the same is expected of the same metric, and a check passes exactly
if the server reports a number that is equal to the integer in double precision.
-/
theorem expected_counts_agree {n : Int} (hlow : -2 ^ 63 ≤ n) (hhigh : n < 2 ^ 63) :
    (forall depth fuel rest, EndsNumber rest ->
      readValue depth (fuel + 1) ((toString n).toList ++ rest) = .ok (.integer n, rest)) ∧
    (forall project command, exists scenario,
      ofValue (singleDocument project command "violations" (.integer n)) = .ok scenario ∧
      scenario.expect.violations = some (.ofInt n)) ∧
    (forall project command v, Stands n v -> exists scenario,
      ofValue (singleDocument project command "metrics" (.table [("violations", v)])) =
        .ok scenario ∧
      scenario.expect.metrics = some [("violations", v)]) ∧
    forall expected, ExpectsCount n expected ->
      expected = .ok (Measures.expectedViolations (.ofInt n)) ∧
      forall around runner ctx s,
        (checkMeasures around runner expected ctx s).1 = .ok () <->
          exists body measured,
            around.answer s.requests.length (Measures.measuresUrl runner.config.server.url
              ctx.project ["violations"]) = .ok body ∧
            Measures.readMeasures body = .ok measured ∧
            Measures.Meets (.value (.ofInt n)) (measured.find? "violations") := by
  refine ⟨?_, ?_, ?_, ?_⟩
  · intro depth fuel rest hrest
    exact readValue_integer hlow hhigh hrest depth fuel
  · intro project command
    exact ⟨_, rfl, rfl⟩
  · intro project command v _hstands
    exact ⟨_, rfl, rfl⟩
  · intro expected hexpected
    rw [eq_of_expectsCount hlow hhigh hexpected]
    refine ⟨rfl, ?_⟩
    intro around runner ctx s
    simp only [← Measures.diff_expectedViolations_eq_nil_iff]
    exact Measures.check_eq_ok_iff around runner.config.server.url ctx.project
      (Measures.expectedViolations (.ofInt n)) s

theorem expected_counts_of_rounded_integer_agree :
    readValue 0 1 "9007199254740993\n".toList = .ok (.integer 9007199254740993, ['\n']) ∧
    Measures.expectedFromPairs [("violations", "9007199254740993")] =
      .ok (Measures.expectedViolations (.ofInt 9007199254740992)) ∧
    exists scenario,
      ofValue (singleDocument "p" "true" "metrics"
        (.table [("violations", .integer 9007199254740993)])) = .ok scenario ∧
      scenario.expect.metrics.map expectedMetrics =
        some (.ok (Measures.expectedViolations (.ofInt 9007199254740992))) := by
  have hrounded : Binary64.ofInt 9007199254740993 = .ofInt 9007199254740992 := by
    decide +kernel
  have hset : (.ok (Measures.expectedViolations (.ofInt 9007199254740993)) :
      Except Failure Measures.ExpectedSet) =
        .ok (Measures.expectedViolations (.ofInt 9007199254740992)) := by
    rw [hrounded]
  have htext : toString (9007199254740993 : Int) = "9007199254740993" := by
    decide +kernel
  have hlow : -2 ^ 63 ≤ (9007199254740993 : Int) := by decide
  have hhigh : (9007199254740993 : Int) < 2 ^ 63 := by decide
  have hends : EndsNumber ['\n'] := by
    intro c hc
    cases hc
    decide
  rcases expected_counts_agree hlow hhigh with ⟨hread, _hfield, hmetric, hways⟩
  refine ⟨?_, ?_, ?_⟩
  · have hvalue := hread 0 0 ['\n'] hends
    rw [htext] at hvalue
    exact hvalue
  · rw [← htext]
    exact (hways _ .pair).1.trans hset
  · rcases hmetric "p" "true" _ .number with ⟨scenario, hscenario, htable⟩
    refine ⟨scenario, hscenario, ?_⟩
    have hexpected := (hways _ (.metric hscenario .number (.intro rfl rfl rfl rfl) htable)).1
    exact (congrArg (Option.map expectedMetrics) htable).trans
      (congrArg some (hexpected.trans hset))

end Scenario
end AnalysisHarness
