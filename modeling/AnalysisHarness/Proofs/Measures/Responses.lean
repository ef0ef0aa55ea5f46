import AnalysisHarness.Proofs.Json.Meaning
import AnalysisHarness.Proofs.Measures.Contradiction
import AnalysisHarness.Proofs.Measures.Variation

/-!
# What answers report

An answer holds measures if it is JSON and an array that is not empty. Its first item is searched
for measures, whatever it is. What is reported for a metric is what the value of the last measure of
the metric tells; everything in the answer that is no measure of the metric does not matter.
-/

namespace AnalysisHarness
namespace Measures

open Text Json

/-!
## Single measures
-/

/-- What the value of a measure tells, if the measure has one. -/
inductive Tells : Option Json -> Measured -> Prop
  | missing : Tells none .null
  | null : Tells (some .null) .null
  | number {n : Json.Number} :
      Tells (some (.number n)) (.value n.toBinary64 (String.ofList n.write))
  | numeral {s : String} {number : Binary64}
      (h : Decimal.read (trimChars s.toList) = some number) :
      Tells (some (.string s)) (.value number (trim s))
  | words {s : String} (h : Decimal.read (trimChars s.toList) = none) :
      Tells (some (.string s)) (.unparsable s)
  | other {j : Json} (hnull : j ≠ .null) (hnumber : forall n, j ≠ .number n)
      (hstring : forall s, j ≠ .string s) : Tells (some j) (.unparsable j.compact)

theorem tells_iff {val : Option Json} {got : Measured} :
    Tells val got <-> got = val.elim .null Measured.ofJson := by
  constructor
  · intro h
    cases h with
    | missing => rfl
    | null => rfl
    | number => rfl
    | numeral hread => rw [Option.elim_some, Measured.ofJson, hread]
    | words hread => rw [Option.elim_some, Measured.ofJson, hread]
    | other hnull hnumber hstring => exact (Measured.ofJson.eq_4 _ hnull hnumber hstring).symm
  · intro h
    rw [h]
    cases val with
    | none => exact .missing
    | some j =>
        rw [Option.elim_some]
        unfold Measured.ofJson
        split
        · exact .null
        · exact .number
        · split
          · rename_i hread
            exact .numeral hread
          · rename_i hread
            exact .words hread
        · rename_i hnull hnumber hstring
          exact .other hnull hnumber hstring

theorem measure?_eq_some_iff {measure : Json} {metric : String} {got : Measured} :
    measure? measure = some (metric, got) <->
      metricOf? measure = some metric ∧ Tells (measure.member? "val") got := by
  rw [tells_iff]
  unfold measure? metricOf?
  cases measure.member? "key" with
  | none => simp
  | some key =>
      cases key with
      | string key => cases measure.member? "val" <;> simp [eq_comm]
      | _ => simp

/-!
## Several measures
-/

def LastOf (metric : String) (measures : List Json) (measure : Json) : Prop :=
  Last (fun measure => metricOf? measure = some metric) measures measure

theorem find?_reported_iff {measures : List Json} {metric : String} {got : Measured} :
    (Keyed.ofPairs (measures.filterMap measure?)).find? metric = some got <->
      exists measure, LastOf metric measures measure ∧ Tells (measure.member? "val") got := by
  have hof : (fun measure => ((measure? measure).bind fun pair =>
      if pair.1 = metric then some pair.2 else none) ≠ none) =
        fun measure => metricOf? measure = some metric := by
    funext measure
    rw [← map_fst_measure?]
    cases measure? measure with
    | none => simp
    | some pair => simp
  rw [Keyed.find?_ofPairs, List.filterMap_filterMap, getLast?_filterMap_eq_some_iff, hof]
  constructor
  · rintro ⟨measure, hlast, hgot⟩
    rcases Option.bind_eq_some_iff.mp hgot with ⟨⟨name, told⟩, hmeasure, htold⟩
    dsimp only at htold
    split at htold
    · cases htold
      exact ⟨measure, hlast, (measure?_eq_some_iff.mp hmeasure).2⟩
    · cases htold
  · rintro ⟨measure, hlast, htells⟩
    refine ⟨measure, hlast, ?_⟩
    rw [measure?_eq_some_iff.mpr ⟨hlast.holds, htells⟩]
    exact if_pos rfl

/-- What is reported for a metric depends on nothing but its measures, in their order. -/
theorem find?_reported_congr {measures measures' : List Json} {metric : String}
    (h : (measures.filter fun measure => metricOf? measure == some metric) =
      measures'.filter fun measure => metricOf? measure == some metric) :
    (Keyed.ofPairs (measures.filterMap measure?)).find? metric =
      (Keyed.ofPairs (measures'.filterMap measure?)).find? metric := by
  have hkept : forall measures : List Json,
      (measures.filterMap measure?).filterMap
          (fun pair => if pair.1 = metric then some pair.2 else none) =
        ((measures.filter fun measure => metricOf? measure == some metric).filterMap measure?).map
          Prod.snd := by
    intro measures
    rw [List.filterMap_filterMap, List.filterMap_filter, List.map_filterMap]
    apply List.filterMap_congr
    intro measure _hmem
    rw [← map_fst_measure?]
    cases measure? measure with
    | none => simp
    | some pair =>
        by_cases hname : pair.1 = metric
        · simp [hname]
        · simp [hname]
  rw [Keyed.find?_ofPairs, Keyed.find?_ofPairs, hkept, hkept, h]

/-!
## Answers
-/

def Holds (resource : Json) (measures : List Json) : Prop :=
  resource.member? "msr" = some (.array measures)

theorem measuresOf_of_holds {resource : Json} {measures : List Json} (h : Holds resource measures) :
    measuresOf resource = measures := by
  unfold measuresOf
  rw [h]

theorem measuresOf_eq_nil {resource : Json} (h : forall measures, ¬Holds resource measures) :
    measuresOf resource = [] := by
  unfold measuresOf
  split
  · rename_i measures hmeasures
    exact absurd hmeasures (h measures)
  · rfl

theorem readMeasures_of_denotes {body : String} {resource : Json} {more : List Json}
    (h : Denotes body (.array (resource :: more))) :
    readMeasures body = .ok (Keyed.ofPairs ((measuresOf resource).filterMap measure?)) := by
  unfold readMeasures
  rw [read_eq_ok_iff.mpr h]

theorem readMeasures_of_other {body : String} {j : Json} (h : Denotes body j)
    (hother : forall resource more, j ≠ .array (resource :: more)) :
    exists reason, readMeasures body = .error (.measuresUnavailable reason) := by
  unfold readMeasures
  rw [read_eq_ok_iff.mpr h]
  split
  · rename_i hread
    cases hread
  · rename_i hread
    cases hread
    exact absurd rfl (hother _ _)
  · exact ⟨_, rfl⟩

theorem readMeasures_of_no_value {body : String} (h : ¬exists j, Denotes body j) :
    exists e, readMeasures body = .error (.json e) := by
  rcases exists_error_iff.mpr h with ⟨e, he⟩
  unfold readMeasures
  rw [he]
  exact ⟨_, rfl⟩

theorem body_cases (body : String) :
    (¬exists j, Denotes body j) ∨
    (exists j, Denotes body j ∧ forall resource more, j ≠ .array (resource :: more)) ∨
    exists resource more, Denotes body (.array (resource :: more)) := by
  by_cases hvalue : exists j, Denotes body j
  · rcases hvalue with ⟨j, hj⟩
    by_cases hresources : exists resource more, j = .array (resource :: more)
    · rcases hresources with ⟨resource, more, rfl⟩
      exact Or.inr (Or.inr ⟨resource, more, hj⟩)
    · refine Or.inr (Or.inl ⟨j, hj, ?_⟩)
      intro resource more heq
      exact hresources ⟨resource, more, heq⟩
  · exact Or.inl hvalue

theorem json_error_iff (body : String) :
    (exists e, readMeasures body = .error (.json e)) <-> ¬exists j, Denotes body j := by
  constructor
  · rintro ⟨e, he⟩ ⟨j, hj⟩
    rcases body_cases body with hnone | ⟨j', hj', hother⟩ | ⟨resource, more, hresources⟩
    · exact hnone ⟨j, hj⟩
    · rcases readMeasures_of_other hj' hother with ⟨reason, hreason⟩
      rw [hreason] at he
      cases he
    · rw [readMeasures_of_denotes hresources] at he
      cases he
  · exact readMeasures_of_no_value

theorem unavailable_error_iff (body : String) :
    (exists reason, readMeasures body = .error (.measuresUnavailable reason)) <->
      exists j, Denotes body j ∧ forall resource more, j ≠ .array (resource :: more) := by
  constructor
  · rintro ⟨reason, hreason⟩
    rcases body_cases body with hnone | hother | ⟨resource, more, hresources⟩
    · rcases readMeasures_of_no_value hnone with ⟨e, he⟩
      rw [he] at hreason
      cases hreason
    · exact hother
    · rw [readMeasures_of_denotes hresources] at hreason
      cases hreason
  · rintro ⟨j, hj, hother⟩
    exact readMeasures_of_other hj hother

theorem find?_iff_of_resource {resource : Json} {metric : String} {got : Measured} :
    (Keyed.ofPairs ((measuresOf resource).filterMap measure?)).find? metric = some got <->
      exists measures measure, Holds resource measures ∧ LastOf metric measures measure ∧
        Tells (measure.member? "val") got := by
  constructor
  · intro h
    rcases find?_reported_iff.mp h with ⟨measure, hlast, htells⟩
    by_cases hholds : exists measures, Holds resource measures
    · rcases hholds with ⟨measures, hholds⟩
      rw [measuresOf_of_holds hholds] at hlast
      exact ⟨measures, measure, hholds, hlast, htells⟩
    · rw [measuresOf_eq_nil (not_exists.mp hholds)] at hlast
      exact absurd hlast.mem List.not_mem_nil
  · rintro ⟨measures, measure, hholds, hlast, htells⟩
    rw [measuresOf_of_holds hholds]
    exact find?_reported_iff.mpr ⟨measure, hlast, htells⟩

theorem read_written_of_tells {val : Option Json} {number : Binary64} {written : String}
    (hsound : forall j, val = some j -> j.Sound) (h : Tells val (.value number written)) :
    Decimal.read written.toList = some number := by
  cases h with
  | number =>
      rw [String.toList_ofList]
      cases hsound _ rfl with
      | number hn => exact hn.read_write
  | numeral hread =>
      rw [toList_trim]
      exact hread

/--
A body is refused as JSON exactly if it stands for no value, and as measures exactly if its value
has no first item. Otherwise there are measures, whatever the first item is: of each metric that a
measure in its list is about, as the last such measure tells. A number is kept with a text of it.
What is found for a metric does not depend on anything in the list but the measures of the metric.
-/
theorem readMeasures_by_last_measures (body : String) :
    ((exists e, readMeasures body = .error (.json e)) <-> ¬exists j, Denotes body j) ∧
    ((exists reason, readMeasures body = .error (.measuresUnavailable reason)) <->
      exists j, Denotes body j ∧ forall resource more, j ≠ .array (resource :: more)) ∧
    forall resource more, Denotes body (.array (resource :: more)) ->
      exists measured : MeasuredSet, readMeasures body = .ok measured ∧ Keyed.Ordered measured ∧
        (forall metric, metric ∈ measured.keys <-> exists measures measure,
          Holds resource measures ∧ measure ∈ measures ∧ metricOf? measure = some metric) ∧
        (forall metric got, measured.find? metric = some got <-> exists measures measure,
          Holds resource measures ∧ LastOf metric measures measure ∧
            Tells (measure.member? "val") got) ∧
        (forall metric number written, measured.find? metric = some (.value number written) ->
          Decimal.read written.toList = some number) ∧
        forall body' resource' more' measures measures' metric,
          Denotes body' (.array (resource' :: more')) ->
          Holds resource measures -> Holds resource' measures' ->
          (measures.filter fun measure => metricOf? measure == some metric) =
            (measures'.filter fun measure => metricOf? measure == some metric) ->
          exists measured', readMeasures body' = .ok measured' ∧
            measured.find? metric = measured'.find? metric := by
  refine ⟨json_error_iff body, unavailable_error_iff body, ?_⟩
  intro resource more hbody
  refine ⟨_, readMeasures_of_denotes hbody, Keyed.ordered_ofPairs _, ?_, ?_, ?_, ?_⟩
  · intro metric
    constructor
    · intro hmem
      rcases List.mem_map.mp hmem with ⟨⟨name, got⟩, hentry, rfl⟩
      have hfind := (Keyed.mem_iff_find? (Keyed.ordered_ofPairs _)).mp hentry
      rcases find?_iff_of_resource.mp hfind with ⟨measures, measure, hholds, hlast, _htells⟩
      exact ⟨measures, measure, hholds, hlast.mem, hlast.holds⟩
    · rintro ⟨measures, measure, hholds, hmem, hmetric⟩
      have hexists : exists last, LastOf metric measures last := Last.of_mem hmem hmetric
      rcases hexists with ⟨last, hlast⟩
      have hfind := find?_iff_of_resource.mpr ⟨measures, last, hholds, hlast, tells_iff.mpr rfl⟩
      exact List.mem_map.mpr ⟨_, Keyed.mem_of_find? hfind, rfl⟩
  · intro metric got
    exact find?_iff_of_resource
  · intro metric number written hfind
    rcases find?_iff_of_resource.mp hfind with ⟨measures, measure, hholds, hlast, htells⟩
    apply read_written_of_tells _ htells
    intro j hj
    cases sound_of_read (read_eq_ok_iff.mpr hbody) with
    | array hitems =>
        have hmem : measure ∈ measuresOf resource := by
          rw [measuresOf_of_holds hholds]
          exact hlast.mem
        exact (sound_of_mem_measuresOf (hitems _ List.mem_cons_self) hmem).of_member? hj
  · intro body' resource' more' measures measures' metric hbody' hholds hholds' hsame
    refine ⟨_, readMeasures_of_denotes hbody', ?_⟩
    rw [measuresOf_of_holds hholds, measuresOf_of_holds hholds']
    exact find?_reported_congr hsame

def raggedMeasures : List Json :=
  [.number (.natural 1), measureOf "a" " 1.5 ", .object [("key", .null)],
    .object [("key", .string "b"), ("val", .array [.bool true])], .object [("key", .string "a")]]

theorem readMeasures_of_ragged_measures :
    exists resource more measured,
      Denotes (answerOf raggedMeasures []).pretty (.array (resource :: more)) ∧
      readMeasures (answerOf raggedMeasures []).pretty = .ok measured ∧
      measured.find? "a" = some .null ∧
      measured.find? "b" = some (.unparsable "[true]") := by
  have hreports : Reports (answerOf raggedMeasures []).pretty raggedMeasures := by
    apply reports_answerOf
    · intro measure hmeasure
      simp only [raggedMeasures, List.mem_cons, List.not_mem_nil, or_false] at hmeasure
      rcases hmeasure with rfl | rfl | rfl | rfl | rfl
      · exact .number (.natural (by decide))
      · exact fits_measureOf 123 "a" " 1.5 "
      · exact .object (List.forall_mem_singleton.mpr .null)
      · exact .object (List.forall_mem_cons.mpr
          ⟨.string, List.forall_mem_singleton.mpr (.array (List.forall_mem_singleton.mpr .bool))⟩)
      · exact .object (List.forall_mem_singleton.mpr .string)
    · exact List.forall_mem_nil _
    · have hbefore : precedes "val" "key" = false := by decide
      simp [raggedMeasures, allInKeyOrder, inKeyOrder, membersInKeyOrder, measureOf, Keyed.ofPairs,
        Keyed.put, hbefore]
    · rfl
  rcases hreports with ⟨resource, more, hread, hholds⟩
  have hbody := read_eq_ok_iff.mp hread
  rcases (readMeasures_by_last_measures (answerOf raggedMeasures []).pretty).2.2 _ _ hbody with
    ⟨measured, hmeasured, _hordered, _hkeys, hfind, _hwritten, _hsame⟩
  have hsplit : raggedMeasures = raggedMeasures.take 3 ++
      .object [("key", .string "b"), ("val", .array [.bool true])] :: raggedMeasures.drop 4 := rfl
  have hsplit' : raggedMeasures = raggedMeasures.take 4 ++ [.object [("key", .string "a")]] := rfl
  refine ⟨resource, more, measured, hbody, hmeasured, ?_, ?_⟩
  · apply (hfind "a" .null).mpr
    exact ⟨raggedMeasures, _, hholds, .mk hsplit' rfl (List.forall_mem_nil _), .missing⟩
  · apply (hfind "b" _).mpr
    have hother : Tells (some (.array [.bool true])) (.unparsable "[true]") :=
      .other (by simp) (by simp) (by simp)
    refine ⟨raggedMeasures, _, hholds, .mk hsplit rfl ?_, hother⟩
    intro later hlater
    rw [List.mem_singleton.mp hlater]
    decide

end Measures
end AnalysisHarness
