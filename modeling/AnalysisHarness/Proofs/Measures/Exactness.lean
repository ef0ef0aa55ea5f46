import AnalysisHarness.Proofs.Measures.Variation

/-!
# The lines are exact

There is one line for each metric that is expected and does not match, in the order of the metrics,
and no other line. A check fails with these lines, or passes if there are none.
-/

namespace AnalysisHarness

/-!
## Equal numbers
-/

/-- The same number, or both zeros whatever their signs. What is no number equals nothing. -/
def Binary64.Equal (a b : Binary64) : Prop :=
  a = b ∧ a ≠ .nan ∨ a.isZero = true ∧ b.isZero = true

theorem Binary64.eq_iff_equal (a b : Binary64) : a.eq b = true <-> Equal a b := by
  unfold Equal
  cases a with
  | nan =>
      constructor
      · intro h
        cases h
      · rintro (⟨_, hnan⟩ | ⟨hzero, _⟩)
        · exact absurd rfl hnan
        · cases hzero
  | infinite negative => cases b <;> simp [Binary64.eq, isZero]
  | finite negative m e =>
      cases b with
      | nan => simp [Binary64.eq, isZero]
      | infinite negative' => simp [Binary64.eq, isZero]
      | finite negative' n f =>
          have hzero : forall (sign : Bool) (k g : Nat),
              (finite sign k g).isZero = true <-> k = 0 := by
            intro sign k g
            cases k <;> simp [isZero]
          rw [hzero, hzero]
          simp [Binary64.eq, or_comm, and_assoc]

namespace Measures

open Text

/-!
## Metrics that match
-/

/-- What is reported for a metric, if anything is, meets an expectation. -/
inductive Meets : Expected -> Option Measured -> Prop
  | value {wanted number : Binary64} {written : String} (h : wanted.Equal number) :
      Meets (.value wanted) (some (.value number written))
  | missing : Meets .absent none
  | null : Meets .absent (some .null)

theorem matchesExpected_iff (wanted : Expected) (got : Option Measured) :
    matchesExpected wanted got = true <-> Meets wanted got := by
  constructor
  · intro h
    unfold matchesExpected at h
    split at h
    · exact .value ((Binary64.eq_iff_equal _ _).mp h)
    · exact .missing
    · exact .null
    · cases h
  · intro h
    cases h with
    | value hequal => exact (Binary64.eq_iff_equal _ _).mpr hequal
    | missing => rfl
    | null => rfl

def mismatches (expected : ExpectedSet) (measured : MeasuredSet) : List String :=
  (expected.filter fun entry => !matchesExpected entry.2 (measured.find? entry.1)).map Prod.fst

theorem diff_eq_map (expected : ExpectedSet) (measured : MeasuredSet) :
    diff expected measured = (mismatches expected measured).map fun metric =>
      mismatchLine metric (measured.find? metric) := by
  unfold diff mismatches
  induction expected with
  | nil => rfl
  | cons entry expected ih =>
      rcases entry with ⟨metric, wanted⟩
      rw [List.filterMap_cons, List.filter_cons]
      cases hmatches : matchesExpected wanted (measured.find? metric) with
      | true =>
          simp only [hmatches, if_true, Bool.not_true, Bool.false_eq_true, if_false]
          exact ih
      | false =>
          simp only [hmatches, Bool.false_eq_true, if_false, Bool.not_false, if_true, List.map_cons]
          rw [ih]

theorem pairwise_mismatches {expected : ExpectedSet} (h : Keyed.Ordered expected)
    (measured : MeasuredSet) : (mismatches expected measured).Pairwise (· < ·) := by
  apply List.pairwise_map.mpr
  exact List.Pairwise.filter _ h

theorem mem_mismatches_iff {expected : ExpectedSet} (h : Keyed.Ordered expected)
    (measured : MeasuredSet) (metric : String) :
    metric ∈ mismatches expected measured <-> exists wanted,
      expected.find? metric = some wanted ∧ ¬Meets wanted (measured.find? metric) := by
  unfold mismatches
  constructor
  · intro hmem
    rcases List.mem_map.mp hmem with ⟨⟨name, wanted⟩, hentry, rfl⟩
    rcases List.mem_filter.mp hentry with ⟨hheld, hdiffers⟩
    exists wanted
    constructor
    · exact (Keyed.mem_iff_find? h).mp hheld
    · intro hmeets
      rw [(matchesExpected_iff _ _).mpr hmeets] at hdiffers
      cases hdiffers
  · rintro ⟨wanted, hheld, hdiffers⟩
    apply List.mem_map.mpr
    refine ⟨(metric, wanted), List.mem_filter.mpr ⟨(Keyed.mem_iff_find? h).mpr hheld, ?_⟩, rfl⟩
    rw [← matchesExpected_iff, Bool.not_eq_true] at hdiffers
    rw [hdiffers]
    rfl

/-!
## Checks
-/

theorem compare_eq_ok_iff (expected : ExpectedSet) (measured : MeasuredSet) :
    compare expected measured = .ok () <-> diff expected measured = [] := by
  unfold compare
  cases diff expected measured with
  | nil => simp
  | cons line lines => simp

theorem compare_of_ne_nil {expected : ExpectedSet} {measured : MeasuredSet}
    (h : diff expected measured ≠ []) :
    compare expected measured =
      .error (.measureMismatch (String.intercalate "\n" (diff expected measured))) := by
  unfold compare
  split
  · rename_i hnil
    exact absurd hnil h
  · rfl

/--
There is exactly one line for each expected metric that what is reported does not meet, and the
metrics of the lines increase. The lines depend on nothing but what is reported for the metrics
that are expected. A check that gets an answer with these measures passes if there are no lines, and
otherwise fails with the lines, joined by line feeds.
-/
theorem diff_exact {expected : ExpectedSet} (h : Keyed.Ordered expected)
    (measured : MeasuredSet) :
    (exists metrics : List String,
      metrics.Pairwise (· < ·) ∧
      (forall metric, metric ∈ metrics <-> exists wanted,
        expected.find? metric = some wanted ∧ ¬Meets wanted (measured.find? metric)) ∧
      diff expected measured = metrics.map fun metric =>
        "\t" ++ metric ++ " is actually " ++ shown (measured.find? metric)) ∧
    (forall measured' : MeasuredSet,
      (forall metric, metric ∈ expected.keys -> measured.find? metric = measured'.find? metric) ->
      diff expected measured = diff expected measured') ∧
    forall (around : Surroundings) (server project body : String) (s : Session),
      readMeasures body = .ok measured ->
      around.answer s.requests.length (measuresUrl server project expected.keys) = .ok body ->
      ((check around server project expected s).1 = .ok () <-> diff expected measured = []) ∧
      (diff expected measured ≠ [] ->
        (check around server project expected s).1 =
          .error (.measureMismatch (String.intercalate "\n" (diff expected measured)))) := by
  refine ⟨⟨mismatches expected measured, ?_, ?_, ?_⟩, ?_, ?_⟩
  · exact pairwise_mismatches h measured
  · intro metric
    exact mem_mismatches_iff h measured metric
  · exact diff_eq_map expected measured
  · intro measured'
    exact diff_congr
  · intro around server project body s hbody hanswer
    rw [check_of_answer hanswer hbody]
    constructor
    · exact compare_eq_ok_iff expected measured
    · exact compare_of_ne_nil

def mixedBody : String :=
  "[\x7b\"msr\":[\x7b\"key\":\"a\",\"val\":-0\x7d,\x7b\"key\":\"b\",\"val\":\"nan\"\x7d," ++
    "\x7b\"key\":\"c\"\x7d,\x7b\"key\":\"d\",\"val\":[1]\x7d,\x7b\"key\":\"z\",\"val\":1\x7d]\x7d]"

def mixedExpected : ExpectedSet :=
  [("a", .value (.zero false)), ("b", .value .nan), ("c", .absent), ("d", .absent),
    ("e", .value (.zero true))]

theorem diff_of_mixedBody_exact :
    Keyed.Ordered mixedExpected ∧
    exists measured, readMeasures mixedBody = .ok measured ∧
      diff mixedExpected measured =
        ["\tb is actually nan", "\td is actually [1]", "\te is actually None"] ∧
      (check (.scripted [.ok mixedBody]) "http://h" "p" mixedExpected (.start .empty)).1 =
        .error (.measureMismatch
          "\tb is actually nan\n\td is actually [1]\n\te is actually None") := by
  have hordered : Keyed.Ordered mixedExpected := by
    unfold Keyed.Ordered
    decide
  have hbody : readMeasures mixedBody =
      .ok [("a", .value (.zero true) "-0.0"), ("b", .value .nan "nan"), ("c", .null),
        ("d", .unparsable "[1]"), ("z", .value (.ofNat false 1) "1")] := by
    decide +kernel
  refine ⟨hordered, _, hbody, by decide +kernel, ?_⟩
  rcases diff_exact hordered _ with ⟨_hlines, _hcongr, hcheck⟩
  refine ((hcheck (.scripted [.ok mixedBody]) "http://h" "p" mixedBody (.start .empty) hbody
    rfl).2 ?_).trans ?_
  · decide +kernel
  · decide +kernel

end Measures
end AnalysisHarness
