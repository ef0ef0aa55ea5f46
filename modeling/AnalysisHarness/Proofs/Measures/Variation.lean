import AnalysisHarness.Measures.Check
import AnalysisHarness.Proofs.Journal
import AnalysisHarness.Proofs.Json.RoundTrip
import AnalysisHarness.Proofs.Text.Entries

/-!
# Measures in another order

Which measures differ depends on what is reported for the metrics that are expected. It does not
depend on how expectations and measures are ordered, on measures of other metrics, or on other
resources.
-/

namespace AnalysisHarness
namespace Measures

open Text

variable {metrics : List String}

/-!
## Expectations
-/

def expectedOf (text : String) : Expected :=
  match Expected.read text with
  | .ok expected => expected
  | .error _ => .absent

theorem readPairs_eq_ok {pairs : List (String × String)}
    (h : forall pair, pair ∈ pairs -> exists expected, Expected.read pair.2 = .ok expected) :
    readPairs pairs = .ok (pairs.map fun pair => (pair.1, expectedOf pair.2)) := by
  unfold readPairs
  induction pairs with
  | nil => rfl
  | cons first pairs ih =>
      rcases first with ⟨metric, text⟩
      rcases List.forall_mem_cons.mp h with ⟨⟨expected, hexpected⟩, hpairs⟩
      rw [List.mapM_cons, ih hpairs, List.map_cons]
      simp only [hexpected, expectedOf]
      rfl

theorem expectedFromPairs_eq_ok {pairs : List (String × String)}
    (h : forall pair, pair ∈ pairs -> exists expected, Expected.read pair.2 = .ok expected) :
    expectedFromPairs pairs =
      .ok (Keyed.ofPairs (pairs.map fun pair => (pair.1, expectedOf pair.2))) := by
  unfold expectedFromPairs
  rw [readPairs_eq_ok h]
  rfl

theorem expectedFromPairs_of_perm {pairs pairs' : List (String × String)}
    (hperm : pairs.Perm pairs') (hmetrics : (pairs.map Prod.fst).Nodup)
    (hvalid : forall pair, pair ∈ pairs -> exists expected, Expected.read pair.2 = .ok expected) :
    exists expected, expectedFromPairs pairs = .ok expected ∧
      expectedFromPairs pairs' = .ok expected ∧ expected.keys.Perm (pairs.map Prod.fst) := by
  have hvalid' : forall pair, pair ∈ pairs' ->
      exists expected, Expected.read pair.2 = .ok expected := by
    intro pair hpair
    exact hvalid pair (hperm.mem_iff.mpr hpair)
  have hfirst : (pairs.map fun pair => (pair.1, expectedOf pair.2)).map Prod.fst =
      pairs.map Prod.fst := by
    rw [List.map_map]
    rfl
  rw [← hfirst] at hmetrics
  refine ⟨Keyed.ofPairs (pairs.map fun pair => (pair.1, expectedOf pair.2)), ?_, ?_, ?_⟩
  · exact expectedFromPairs_eq_ok hvalid
  · rw [expectedFromPairs_eq_ok hvalid', Keyed.ofPairs_eq_of_perm (hperm.map _) hmetrics]
  · rw [← hfirst]
    exact (Keyed.perm_ofPairs hmetrics).map Prod.fst

/-!
## Measures
-/

def metricOf? (measure : Json) : Option String :=
  match measure.member? "key" with
  | some (.string key) => some key
  | _ => none

theorem map_fst_measure? (measure : Json) :
    (measure? measure).map Prod.fst = metricOf? measure := by
  unfold measure? metricOf?
  cases measure.member? "key" with
  | none => rfl
  | some key =>
      cases key with
      | string key => cases measure.member? "val" <;> rfl
      | _ => rfl

/-- Lists of measures that differ in their order and in measures of other metrics. -/
inductive Varied (metrics : List String) : List Json -> List Json -> Prop
  | permuted {measures measures' : List Json} (h : measures.Perm measures') :
      Varied metrics measures measures'
  | unexpected {before after : List Json} {measure : Json} {metric : String}
      (h : metricOf? measure = some metric) (hmetric : metric ∉ metrics) :
      Varied metrics (before ++ after) (before ++ measure :: after)
  | keyless {before after : List Json} {measure : Json} (h : metricOf? measure = none) :
      Varied metrics (before ++ after) (before ++ measure :: after)
  | symm {measures measures' : List Json} (h : Varied metrics measures measures') :
      Varied metrics measures' measures
  | trans {measures measures' measures'' : List Json} (h : Varied metrics measures measures')
      (h' : Varied metrics measures' measures'') : Varied metrics measures measures''

def reported (metrics : List String) (measures : List Json) : List (String × Measured) :=
  (measures.filterMap measure?).filter fun pair => pair.1 ∈ metrics

theorem reported_append (metrics : List String) (measures measures' : List Json) :
    reported metrics (measures ++ measures') =
      reported metrics measures ++ reported metrics measures' := by
  unfold reported
  rw [List.filterMap_append, List.filter_append]

theorem reported_cons {measure : Json}
    (h : forall metric, metricOf? measure = some metric -> metric ∉ metrics)
    (measures : List Json) :
    reported metrics (measure :: measures) = reported metrics measures := by
  rw [← map_fst_measure?] at h
  unfold reported
  rw [List.filterMap_cons]
  cases hmeasure : measure? measure with
  | none => rfl
  | some pair =>
      have hpair : pair.1 ∉ metrics := h pair.1 (by rw [hmeasure]; rfl)
      exact List.filter_cons_of_neg (by simpa using hpair)

theorem perm_reported_of_varied {measures measures' : List Json}
    (h : Varied metrics measures measures') :
    (reported metrics measures).Perm (reported metrics measures') := by
  induction h with
  | permuted hperm => exact (hperm.filterMap _).filter _
  | unexpected hmetric hnot =>
      rw [reported_append, reported_append, reported_cons]
      intro metric hmetric'
      cases hmetric.symm.trans hmetric'
      exact hnot
  | keyless hnone =>
      rw [reported_append, reported_append, reported_cons]
      intro metric hmetric
      cases hnone.symm.trans hmetric
  | symm _ ih => exact ih.symm
  | trans _ _ ih ih' => exact ih.trans ih'

theorem nodup_reported {measures : List Json} (h : (measures.filterMap metricOf?).Nodup) :
    ((reported metrics measures).map Prod.fst).Nodup := by
  have hmetrics : (measures.filterMap measure?).map Prod.fst = measures.filterMap metricOf? := by
    rw [List.map_filterMap]
    exact List.filterMap_congr fun measure _ => map_fst_measure? measure
  rw [← hmetrics] at h
  exact h.sublist (List.filter_sublist.map Prod.fst)

theorem find?_ofPairs_reported {metric : String} (h : metric ∈ metrics) (measures : List Json) :
    (Keyed.ofPairs (reported metrics measures)).find? metric =
      (Keyed.ofPairs (measures.filterMap measure?)).find? metric := by
  unfold reported
  rw [Keyed.find?_ofPairs, Keyed.find?_ofPairs, List.filterMap_filter]
  congr 1
  apply List.filterMap_congr
  intro pair _
  by_cases hpair : pair.1 = metric
  · simp [hpair, h]
  · simp [hpair]

theorem find?_eq_of_varied {measures measures' : List Json}
    (hkeys : (measures.filterMap metricOf?).Nodup) (h : Varied metrics measures measures')
    {metric : String} (hmetric : metric ∈ metrics) :
    (Keyed.ofPairs (measures.filterMap measure?)).find? metric =
      (Keyed.ofPairs (measures'.filterMap measure?)).find? metric := by
  rw [← find?_ofPairs_reported hmetric, ← find?_ofPairs_reported hmetric,
    Keyed.ofPairs_eq_of_perm (perm_reported_of_varied h) (nodup_reported hkeys)]

/-!
## Checks
-/

/-- The lines depend on nothing but what is found for the metrics that are expected. -/
theorem diff_congr {expected : ExpectedSet} {measured measured' : MeasuredSet}
    (h : forall metric, metric ∈ expected.keys -> measured.find? metric = measured'.find? metric) :
    diff expected measured = diff expected measured' := by
  apply List.filterMap_congr
  intro pair hpair
  have hfind := h pair.1 (List.mem_map.mpr ⟨pair, hpair, rfl⟩)
  simp only [hfind]

theorem compare_congr {expected : ExpectedSet} {measured measured' : MeasuredSet}
    (h : forall metric, metric ∈ expected.keys -> measured.find? metric = measured'.find? metric) :
    compare expected measured = compare expected measured' := by
  unfold compare
  rw [diff_congr h]

theorem compare_ok_or_mismatch (expected : ExpectedSet) (measured : MeasuredSet) :
    compare expected measured = .ok () ∨
      exists text, compare expected measured = .error (.measureMismatch text) := by
  unfold compare
  split
  · exact Or.inl rfl
  · exact Or.inr ⟨_, rfl⟩

/-- A body with an array of resources, the first of which holds these measures. -/
def Reports (body : String) (measures : List Json) : Prop :=
  exists resource more, Json.read body = .ok (.array (resource :: more)) ∧
    resource.member? "msr" = some (.array measures)

theorem readMeasures_of_reports {body : String} {measures : List Json}
    (h : Reports body measures) :
    readMeasures body = .ok (Keyed.ofPairs (measures.filterMap measure?)) := by
  rcases h with ⟨resource, more, hbody, hmeasures⟩
  have hlist : measuresOf resource = measures := by
    unfold measuresOf
    rw [hmeasures]
  unfold readMeasures
  simp only [hbody, hlist]

theorem check_of_answer {around : Surroundings} {server project : String}
    {expected : ExpectedSet} {s : Session} {body : String} {measured : MeasuredSet}
    (hanswer : around.answer s.requests.length (measuresUrl server project expected.keys) =
      .ok body) (hbody : readMeasures body = .ok measured) :
    check around server project expected s =
      (compare expected measured,
        s.record (.request (measuresUrl server project expected.keys))) := by
  unfold check fetch Surroundings.get
  rw [hanswer]
  simp only [hbody]

/--
A check makes the same single request and has the same result, whichever of two answers it gets
that differ in the order of the measures, in measures of other metrics and in further resources,
and in whichever order the metrics are expected.
-/
theorem check_independent_of_order {pairs pairs' : List (String × String)}
    {body body' : String} {measures measures' : List Json}
    (hpairs : pairs.Perm pairs') (hmetrics : (pairs.map Prod.fst).Nodup)
    (hvalid : forall pair, pair ∈ pairs -> exists expected, Expected.read pair.2 = .ok expected)
    (hbody : Reports body measures) (hbody' : Reports body' measures')
    (hkeys : (measures.filterMap metricOf?).Nodup)
    (hvaried : Varied (pairs.map Prod.fst) measures measures') (server project : String) :
    exists expected result,
      expectedFromPairs pairs = .ok expected ∧ expectedFromPairs pairs' = .ok expected ∧
      (result = .ok () ∨ exists text, result = .error (.measureMismatch text)) ∧
      forall (around : Surroundings) (s : Session),
        let url := measuresUrl server project expected.keys
        around.answer s.requests.length url = .ok body ∨
            around.answer s.requests.length url = .ok body' ->
        check around server project expected s = (result, s.record (.request url)) := by
  rcases expectedFromPairs_of_perm hpairs hmetrics hvalid with
    ⟨expected, hexpected, hexpected', hperm⟩
  have hsame : compare expected (Keyed.ofPairs (measures'.filterMap measure?)) =
      compare expected (Keyed.ofPairs (measures.filterMap measure?)) := by
    apply compare_congr
    intro metric hmetric
    exact (find?_eq_of_varied hkeys hvaried (hperm.mem_iff.mp hmetric)).symm
  refine ⟨expected, compare expected (Keyed.ofPairs (measures.filterMap measure?)), hexpected,
    hexpected', compare_ok_or_mismatch expected _, ?_⟩
  intro around s url hanswer
  rcases hanswer with hanswer | hanswer
  · exact check_of_answer hanswer (readMeasures_of_reports hbody)
  · rw [← hsame]
    exact check_of_answer hanswer (readMeasures_of_reports hbody')

def measureOf (metric text : String) : Json :=
  .object [("key", .string metric), ("val", .string text)]

def answerOf (measures more : List Json) : Json :=
  .array (.object [("msr", .array measures)] :: more)

theorem inKeyOrder_measureOf (metric text : String) :
    (measureOf metric text).inKeyOrder = measureOf metric text := by
  have hbefore : precedes "val" "key" = false := by decide
  unfold measureOf
  simp [Json.inKeyOrder, Json.membersInKeyOrder, Keyed.ofPairs, Keyed.put, hbefore]

theorem fits_measureOf (depth : Nat) (metric text : String) :
    Json.Fits (depth + 1) (measureOf metric text) := by
  apply Json.Fits.object
  intro member hmember
  rcases List.mem_pair.mp hmember with rfl | rfl
  · exact .string
  · exact .string

theorem reports_answerOf {measures more : List Json}
    (hmeasures : forall measure, measure ∈ measures -> Json.Fits 124 measure)
    (hmore : forall resource, resource ∈ more -> Json.Fits 126 resource)
    (horder : Json.allInKeyOrder measures = measures) (horder' : Json.allInKeyOrder more = more) :
    Reports (answerOf measures more).pretty measures := by
  have hfits : Json.Fits Json.depthLimit (answerOf measures more) := by
    apply Json.Fits.array
    intro resource hresource
    rcases List.mem_cons.mp hresource with rfl | hresource
    · apply Json.Fits.object
      intro member hmember
      cases List.mem_singleton.mp hmember
      exact .array hmeasures
    · exact hmore resource hresource
  refine ⟨.object [("msr", .array measures)], more, ?_, rfl⟩
  rw [Json.read_pretty hfits]
  simp [answerOf, Json.inKeyOrder, Json.allInKeyOrder, Json.membersInKeyOrder, Keyed.ofPairs,
    Keyed.put, horder, horder']

def orderedAnswer : Json := answerOf [measureOf "a" "1", measureOf "b" "3"] []

def shuffledAnswer : Json :=
  answerOf [measureOf "c" "9", measureOf "b" "3", .bool true, measureOf "a" "1"] [.null]

theorem check_of_shuffledAnswer_independent :
    exists expected result,
      expectedFromPairs [("b", "3"), ("a", "None")] = .ok expected ∧
      expectedFromPairs [("a", "None"), ("b", "3")] = .ok expected ∧
      (result = .ok () ∨ exists text, result = .error (.measureMismatch text)) ∧
      forall answer, answer ∈ [orderedAnswer, shuffledAnswer] ->
        check (.scripted [.ok answer.pretty]) "http://h/" "p" expected (.start .empty) =
          (result, (Session.start .empty).record
            (.request (measuresUrl "http://h/" "p" expected.keys))) := by
  have hordered : Reports orderedAnswer.pretty [measureOf "a" "1", measureOf "b" "3"] := by
    apply reports_answerOf
    · simp [fits_measureOf]
    · simp
    · simp [Json.allInKeyOrder, inKeyOrder_measureOf]
    · rfl
  have hshuffled : Reports shuffledAnswer.pretty
      [measureOf "c" "9", measureOf "b" "3", .bool true, measureOf "a" "1"] := by
    apply reports_answerOf
    · simp [fits_measureOf, Json.Fits.bool]
    · simp [Json.Fits.null]
    · simp [Json.allInKeyOrder, Json.inKeyOrder, inKeyOrder_measureOf]
    · rfl
  have hvaried : Varied ["b", "a"] [measureOf "a" "1", measureOf "b" "3"]
      [measureOf "c" "9", measureOf "b" "3", .bool true, measureOf "a" "1"] := by
    have hswap : Varied ["b", "a"] [measureOf "a" "1", measureOf "b" "3"]
        [measureOf "b" "3", measureOf "a" "1"] := .permuted (.swap _ _ _)
    have hkeyless : Varied ["b", "a"] ([measureOf "b" "3"] ++ [measureOf "a" "1"])
        ([measureOf "b" "3"] ++ .bool true :: [measureOf "a" "1"]) := .keyless rfl
    have hunexpected : Varied ["b", "a"]
        ([] ++ [measureOf "b" "3", .bool true, measureOf "a" "1"])
        ([] ++ measureOf "c" "9" :: [measureOf "b" "3", .bool true, measureOf "a" "1"]) :=
      .unexpected rfl (by decide)
    exact hswap.trans (hkeyless.trans hunexpected)
  have hvalid : forall pair, pair ∈ [("b", "3"), ("a", "None")] ->
      exists expected, Expected.read pair.2 = .ok expected := by
    intro pair hpair
    rcases List.mem_pair.mp hpair with rfl | rfl
    · exact ⟨_, rfl⟩
    · exact ⟨_, rfl⟩
  rcases check_independent_of_order (.swap ("a", "None") ("b", "3") []) (by decide) hvalid
      hordered hshuffled (by decide) hvaried "http://h/" "p" with
    ⟨expected, result, hexpected, hexpected', hresult, hcheck⟩
  refine ⟨expected, result, hexpected, hexpected', hresult, ?_⟩
  intro answer hanswer
  apply hcheck
  rcases List.mem_pair.mp hanswer with rfl | rfl
  · exact Or.inl rfl
  · exact Or.inr rfl

end Measures
end AnalysisHarness
