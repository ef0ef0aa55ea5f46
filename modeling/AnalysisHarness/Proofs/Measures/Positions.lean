import AnalysisHarness.Proofs.Measures.Variation
import AnalysisHarness.Proofs.Outcome
import AnalysisHarness.Proofs.Text.Ends
import AnalysisHarness.Proofs.Text.Splitting

/-!
# Values by their places

A list of values for the metrics about tests is cut at its commas, and the field in each place is
for the metric in that place. The order of the metrics by their names plays no part in this, the
last field is not read at all, and blanks around a field do not count.
-/

namespace AnalysisHarness
namespace Measures

open Text

/-!
## Pairs of a metric and a text
-/

theorem Expected.read_trim (text : String) : Expected.read (trim text) = Expected.read text := by
  unfold Expected.read
  rw [trim_trim]

theorem exists_read_of_expectedFromPairs {pairs : List (String × String)} {set : ExpectedSet}
    (h : expectedFromPairs pairs = .ok set) {pair : String × String} (hpair : pair ∈ pairs) :
    exists expected, Expected.read pair.2 = .ok expected := by
  rcases exists_of_bind_eq_ok h with ⟨said, hsaid, _hset⟩
  rw [readPairs, mapM_eq_ok_iff, List.forall₂_iff_get] at hsaid
  rcases List.mem_iff_get.mp hpair with ⟨⟨place, hplace⟩, rfl⟩
  rcases exists_of_bind_eq_ok (hsaid.2 place hplace (hsaid.1 ▸ hplace)) with ⟨expected, hread, _⟩
  exact ⟨expected, hread⟩

theorem exists_expectedFromPairs_iff (pairs : List (String × String)) :
    (exists set, expectedFromPairs pairs = .ok set) <->
      forall pair, pair ∈ pairs -> exists expected, Expected.read pair.2 = .ok expected := by
  constructor
  · rintro ⟨set, hset⟩ pair hpair
    exact exists_read_of_expectedFromPairs hset hpair
  · intro h
    exact ⟨_, expectedFromPairs_eq_ok h⟩

section Distinct

variable {pairs : List (String × String)} {set : ExpectedSet}

theorem perm_of_expectedFromPairs (h : expectedFromPairs pairs = .ok set)
    (hmetrics : (pairs.map Prod.fst).Nodup) :
    set.Perm (pairs.map fun pair => (pair.1, expectedOf pair.2)) := by
  have hread : forall pair, pair ∈ pairs -> exists expected, Expected.read pair.2 = .ok expected :=
    fun _ hpair => exists_read_of_expectedFromPairs h hpair
  rw [expectedFromPairs_eq_ok hread] at h
  cases h
  apply Keyed.perm_ofPairs
  rw [List.map_map]
  exact hmetrics

theorem keys_of_expectedFromPairs (h : expectedFromPairs pairs = .ok set)
    (hmetrics : (pairs.map Prod.fst).Nodup) : set.keys.Perm (pairs.map Prod.fst) := by
  have hkeys := (perm_of_expectedFromPairs h hmetrics).map Prod.fst
  rw [List.map_map] at hkeys
  exact hkeys

theorem find?_of_expectedFromPairs (h : expectedFromPairs pairs = .ok set)
    (hmetrics : (pairs.map Prod.fst).Nodup) {metric text : String}
    (hpair : (metric, text) ∈ pairs) :
    exists expected, Expected.read text = .ok expected ∧ set.find? metric = some expected := by
  rcases exists_read_of_expectedFromPairs h hpair with ⟨expected, hread⟩
  refine ⟨expected, hread, Keyed.find?_of_mem ?_ ?_⟩
  · exact (keys_of_expectedFromPairs h hmetrics).nodup_iff.mpr hmetrics
  · rw [(perm_of_expectedFromPairs h hmetrics).mem_iff]
    refine List.mem_map.mpr ⟨_, hpair, ?_⟩
    simp only [expectedOf, hread]

end Distinct

/-!
## Fields of a list of values
-/

theorem trimmed_fields (values : String) :
    ((segments ',' values.toList).map fun field => String.ofList (trimChars field)) =
      (fields ',' values).map trim := by
  rw [fields, List.map_map]
  apply List.map_congr_left
  intro field _hfield
  simp [trim]

/-- Only the fields in the places of metrics that are compared are read. -/
theorem expectedTestMetrics_eq (values : String) :
    expectedTestMetrics values =
      if values.toList.count ',' = 5 then
        expectedFromPairs (comparedTestMetrics.zip (((fields ',' values).take 5).map trim))
      else
        .error (.configParse ("expected 6 test metric values, found " ++
          toString (values.toList.count ',' + 1))) := by
  have hlength := length_fields ',' values
  unfold expectedTestMetrics
  simp only [trimmed_fields, List.length_map, hlength]
  by_cases hcount : values.toList.count ',' = 5
  · have hsix : (fields ',' values).length = 6 := by rw [hlength, hcount]
    rw [if_pos hcount, if_neg (by rw [hcount]; decide), List.zip_eq_zip_take_min]
    simp [hsix, comparedTestMetrics, testMetrics]
  · rw [if_neg hcount, if_pos (by rw [testMetrics]; simpa using hcount)]
    rfl

def placedMetrics : List String :=
  ["tests", "test_failures", "test_errors", "skipped_tests", "test_success_density"]

theorem map_fst_zip_placed {values : String} (h : values.toList.count ',' = 5) :
    (comparedTestMetrics.zip (((fields ',' values).take 5).map trim)).map Prod.fst =
      placedMetrics := by
  have hsix : (fields ',' values).length = 6 := by rw [length_fields, h]
  rw [List.map_fst_zip]
  · rfl
  · rw [List.length_map, List.length_take, hsix]
    exact Nat.le_refl 5

theorem mem_zip_placed {values metric field : String} {place : Nat}
    (hmetric : placedMetrics[place]? = some metric)
    (hfield : (fields ',' values)[place]? = some field) :
    (metric, trim field) ∈ comparedTestMetrics.zip (((fields ',' values).take 5).map trim) := by
  have hplace : place < 5 := (List.getElem?_eq_some_iff.mp hmetric).1
  apply List.mem_of_getElem? (i := place)
  rw [List.getElem?_zip_eq_some]
  refine ⟨hmetric, ?_⟩
  rw [List.getElem?_map, List.getElem?_take_of_lt hplace, hfield]
  rfl

/-- Each metric has what the field in its place says, and there are no others. -/
structure FilledInPlaces (texts : List String) (set : ExpectedSet) : Prop where
  metrics : set.keys.Perm placedMetrics
  ordered : Keyed.Ordered set
  place (place : Nat) (metric field : String) : placedMetrics[place]? = some metric ->
    texts[place]? = some field ->
    exists expected, Expected.read field = .ok expected ∧ set.find? metric = some expected

theorem filledInPlaces_of_read {values : String} {set : ExpectedSet}
    (hcount : values.toList.count ',' = 5)
    (h : expectedFromPairs (comparedTestMetrics.zip (((fields ',' values).take 5).map trim)) =
      .ok set) :
    FilledInPlaces (fields ',' values) set := by
  have hmetrics := map_fst_zip_placed hcount
  have hdistinct : placedMetrics.Nodup := by decide
  rw [← hmetrics] at hdistinct
  refine ⟨?_, ?_, ?_⟩
  · rw [← hmetrics]
    exact keys_of_expectedFromPairs h hdistinct
  · rcases exists_of_bind_eq_ok h with ⟨said, _hsaid, hset⟩
    cases hset
    exact Keyed.ordered_ofPairs said
  · intro place metric field hmetric hfield
    have hpair := mem_zip_placed hmetric hfield
    rcases find?_of_expectedFromPairs h hdistinct hpair with ⟨expected, hread, hfind⟩
    rw [Expected.read_trim] at hread
    exact ⟨expected, hread, hfind⟩

theorem readable_zip_iff (values : String) :
    (forall pair, pair ∈ comparedTestMetrics.zip (((fields ',' values).take 5).map trim) ->
      exists expected, Expected.read pair.2 = .ok expected) <->
    forall field, field ∈ (fields ',' values).take 5 ->
      exists expected, Expected.read field = .ok expected := by
  have htexts : (comparedTestMetrics.zip (((fields ',' values).take 5).map trim)).map Prod.snd =
      ((fields ',' values).take 5).map trim := by
    apply List.map_snd_zip
    rw [List.length_map, List.length_take]
    exact Nat.min_le_left 5 _
  have hread : (forall text, text ∈ ((fields ',' values).take 5).map trim ->
      exists expected, Expected.read text = .ok expected) <->
      forall field, field ∈ (fields ',' values).take 5 ->
        exists expected, Expected.read field = .ok expected := by
    simp only [List.forall_mem_map, Expected.read_trim]
  rwa [← htexts, List.forall_mem_map] at hread

/--
A list of values is read just if it has five commas and each of its first five fields can be read.
Each metric then has what the field in its place says. Only the number of the fields and what the
first five of them are without blanks make a difference, also to how the reading fails.
-/
theorem expectedTestMetrics_filled_in_places (values : String) :
    ((exists set, expectedTestMetrics values = .ok set) <->
      values.toList.count ',' = 5 ∧
        forall field, field ∈ (fields ',' values).take 5 ->
          exists expected, Expected.read field = .ok expected) ∧
    (forall set, expectedTestMetrics values = .ok set ->
      FilledInPlaces (fields ',' values) set) ∧
    forall other, other.toList.count ',' = values.toList.count ',' ->
      ((fields ',' other).take 5).map trim = ((fields ',' values).take 5).map trim ->
      expectedTestMetrics other = expectedTestMetrics values := by
  refine ⟨?_, ?_, ?_⟩
  · rw [expectedTestMetrics_eq, ← readable_zip_iff, ← exists_expectedFromPairs_iff]
    by_cases hcount : values.toList.count ',' = 5
    · rw [if_pos hcount]
      exact (and_iff_right hcount).symm
    · simp [hcount]
  · intro set hset
    rw [expectedTestMetrics_eq] at hset
    split at hset
    · rename_i hcount
      exact filledInPlaces_of_read hcount hset
    · cases hset
  · intro other hcount hfields
    rw [expectedTestMetrics_eq, expectedTestMetrics_eq, hcount, hfields]

theorem expectedTestMetrics_of_spaced_values_filled :
    exists set,
      expectedTestMetrics "3, 1,0 ,None,66.5,12" = .ok set ∧
      expectedTestMetrics " 3,1 ,\t0, None ,66.5, soon" = .ok set ∧
      FilledInPlaces ["3", " 1", "0 ", "None", "66.5", "12"] set ∧
      set.find? "skipped_tests" = some .absent ∧
      set.find? "tests" = some (.value (.ofNat false 3)) := by
  have hset : expectedTestMetrics "3, 1,0 ,None,66.5,12" =
      .ok [("skipped_tests", .absent), ("test_errors", .value (.ofNat false 0)),
        ("test_failures", .value (.ofNat false 1)),
        ("test_success_density", .value (.ofRatio false 133 2)),
        ("tests", .value (.ofNat false 3))] := by
    decide +kernel
  rcases expectedTestMetrics_filled_in_places "3, 1,0 ,None,66.5,12" with
    ⟨_hreadable, hfilled, hsame⟩
  have hother := hsame " 3,1 ,\t0, None ,66.5, soon" (by decide +kernel) (by decide +kernel)
  exact ⟨_, hset, hother.trans hset, hfilled _ hset, rfl, rfl⟩

end Measures
end AnalysisHarness
