import AnalysisHarness.Measures.Entries
import AnalysisHarness.Proofs.Outcome
import AnalysisHarness.Proofs.Text.Entries
import AnalysisHarness.Proofs.Text.Occurrences

/-!
# Expectations from entries

Entries are read one by one and laid over a list of values of the metrics about tests. Every one of
them has to be readable, also one that a later one overrides, and there has to be something to
expect. The last entry on a metric decides; where no entry is on it, the list of values does.
-/

namespace AnalysisHarness
namespace Measures

open Text

/-!
## What an entry says
-/

/-- An entry is a metric, with blanks around it, the first equals sign and a text behind it. -/
def Assigns (entry metric text : String) : Prop :=
  exists name : String, entry = name ++ "=" ++ text ∧ '=' ∉ name.toList ∧ metric = trim name

def IsOn (metric entry : String) : Prop :=
  exists text, Assigns entry metric text

def Demands (entry : String) (said : String × Expected) : Prop :=
  exists text, Assigns entry said.1 text ∧ Expected.read text = .ok said.2

theorem splitEntry_eq_ok_iff {entry metric text : String} :
    splitEntry entry = .ok (metric, text) <-> Assigns entry metric text := by
  rw [splitEntry]
  constructor
  · intro h
    split at h
    · cases h
    · rename_i name value hsplit
      cases h
      rcases firstOccurrence_singleton_iff.mp (splitFirst_eq_some_iff.mp hsplit) with
        ⟨hentry, hname⟩
      refine ⟨String.ofList name, ?_, by rwa [String.toList_ofList], ?_⟩
      · apply String.toList_inj.mp
        simp [hentry]
      · rw [trim, String.toList_ofList]
  · rintro ⟨name, rfl, hname, rfl⟩
    have hfirst : FirstOccurrence ['='] name.toList text.toList (name ++ "=" ++ text).toList :=
      firstOccurrence_singleton_iff.mpr ⟨by simp, hname⟩
    rw [splitFirst_eq_some_iff.mpr hfirst]
    exact congrArg (fun text => Except.ok (trim name, text)) String.ofList_toList

theorem Assigns.unique {entry metric metric' text text' : String} (h : Assigns entry metric text)
    (h' : Assigns entry metric' text') : metric = metric' ∧ text = text' := by
  have hsame := (splitEntry_eq_ok_iff.mpr h).symm.trans (splitEntry_eq_ok_iff.mpr h')
  exact Prod.mk.inj (Except.ok.inj hsame)

theorem Demands.unique {entry : String} {said said' : String × Expected} (h : Demands entry said)
    (h' : Demands entry said') : said = said' := by
  rcases h with ⟨text, hassigns, hread⟩
  rcases h' with ⟨text', hassigns', hread'⟩
  rcases hassigns.unique hassigns' with ⟨hmetric, rfl⟩
  exact Prod.ext hmetric (Except.ok.inj (hread.symm.trans hread'))

theorem Demands.isOn_iff {entry metric : String} {said : String × Expected}
    (h : Demands entry said) :
    IsOn metric entry <-> said.1 = metric := by
  rcases h with ⟨text, hassigns, _hread⟩
  constructor
  · rintro ⟨text', hassigns'⟩
    exact (hassigns.unique hassigns').1
  · rintro rfl
    exact ⟨text, hassigns⟩

/-!
## All entries
-/

def readEntries (entries : List String) : Except Failure ExpectedSet :=
  entries.mapM splitEntry >>= expectedFromPairs

theorem readEntries_eq_ok_iff {entries : List String} {upper : ExpectedSet} :
    readEntries entries = .ok upper <->
      exists said, List.Forall₂ Demands entries said ∧ upper = Keyed.ofPairs said := by
  constructor
  · intro h
    rcases exists_of_bind_eq_ok h with ⟨pairs, hpairs, hupper⟩
    rcases exists_of_bind_eq_ok hupper with ⟨said, hsaid, hsame⟩
    refine ⟨said, ?_, (Except.ok.inj hsame).symm⟩
    rw [readPairs, mapM_eq_ok_iff] at hsaid
    rw [mapM_eq_ok_iff] at hpairs
    clear h hupper hsame
    induction hpairs generalizing said with
    | nil =>
        rw [List.forall₂_nil_left_iff.mp hsaid]
        exact .nil
    | cons hpair _hpairs ih =>
        rcases List.forall₂_cons_left_iff.mp hsaid with ⟨first, more, hfirst, hmore, rfl⟩
        rcases exists_of_bind_eq_ok hfirst with ⟨expected, hread, hsame⟩
        cases hsame
        exact .cons ⟨_, splitEntry_eq_ok_iff.mp hpair, hread⟩ (ih more hmore)
  · rintro ⟨said, hdemands, rfl⟩
    have hpairs :
        exists pairs, entries.mapM splitEntry = .ok pairs ∧ readPairs pairs = .ok said := by
      simp only [readPairs, mapM_eq_ok_iff]
      induction hdemands with
      | nil => exact ⟨[], .nil, .nil⟩
      | cons hdemand _hdemands ih =>
          rcases hdemand with ⟨text, hassigns, hread⟩
          rcases ih with ⟨pairs, hpairs, hsaid⟩
          exact ⟨_, .cons (splitEntry_eq_ok_iff.mpr hassigns) hpairs,
            .cons (bind_eq_ok hread rfl) hsaid⟩
    rcases hpairs with ⟨pairs, hpairs, hsaid⟩
    exact bind_eq_ok hpairs (bind_eq_ok hsaid rfl)

theorem exists_readEntries_iff {entries : List String} :
    (exists upper, readEntries entries = .ok upper) <->
      forall entry, entry ∈ entries -> exists said, Demands entry said := by
  simp only [readEntries_eq_ok_iff]
  constructor
  · rintro ⟨_upper, said, hdemands, hupper⟩
    clear hupper
    induction hdemands with
    | nil => exact List.forall_mem_nil _
    | cons hdemand _hdemands ih => exact List.forall_mem_cons.mpr ⟨⟨_, hdemand⟩, ih⟩
  · intro h
    induction entries with
    | nil => exact ⟨_, [], .nil, rfl⟩
    | cons entry entries ih =>
        rcases List.forall_mem_cons.mp h with ⟨⟨first, hfirst⟩, hmore⟩
        rcases ih hmore with ⟨_upper, said, hdemands, _hupper⟩
        exact ⟨_, first :: said, .cons hfirst hdemands, rfl⟩

/-- The last entry on a metric counts. -/
theorem find?_readEntries {entries : List String} {upper : ExpectedSet}
    (h : readEntries entries = .ok upper) (metric : String) (expected : Expected) :
    upper.find? metric = some expected <->
      exists entry, Last (IsOn metric) entries entry ∧ Demands entry (metric, expected) := by
  rcases readEntries_eq_ok_iff.mp h with ⟨said, hdemands, rfl⟩
  rw [Keyed.find?_ofPairs_eq_some_iff]
  constructor
  · intro hlast
    have hiff : forall {pair : String × Expected} {entry : String}, Demands entry pair ->
        (pair.1 = metric <-> IsOn metric entry) := fun hdemand => hdemand.isOn_iff.symm
    exact hlast.transport hdemands.flip hiff
  · rintro ⟨entry, hlast, hdemand⟩
    rcases hlast.transport hdemands Demands.isOn_iff with ⟨pair, hpair, hdemand'⟩
    rw [hdemand.unique hdemand']
    exact hpair

/-!
## Laying entries over others
-/

theorem overlayExpected_cons (base upper : ExpectedSet) (metric : String) (expected : Expected) :
    overlayExpected base ((metric, expected) :: upper) =
      overlayExpected (Keyed.put metric expected base) upper := rfl

theorem ordered_overlayExpected {base : ExpectedSet} (h : Keyed.Ordered base)
    (upper : ExpectedSet) : Keyed.Ordered (overlayExpected base upper) := by
  induction upper generalizing base with
  | nil => exact h
  | cons said upper ih =>
      rw [overlayExpected_cons]
      exact ih (Keyed.ordered_put said.1 said.2 h)

theorem find?_overlayExpected (base : ExpectedSet) {upper : ExpectedSet}
    (h : upper.keys.Nodup) (metric : String) :
    (overlayExpected base upper).find? metric =
      (upper.find? metric).or (base.find? metric) := by
  induction upper generalizing base with
  | nil => rfl
  | cons said upper ih =>
      rcases said with ⟨first, expected⟩
      rcases List.nodup_cons.mp h with ⟨hfirst, hmore⟩
      rw [overlayExpected_cons, ih _ hmore, Keyed.find?_put, Keyed.find?]
      by_cases hmetric : metric = first
      · rw [if_pos hmetric, if_pos hmetric.symm, hmetric,
          Keyed.find?_eq_none_of_not_mem_keys hfirst]
        rfl
      · rw [if_neg hmetric, if_neg (Ne.symm hmetric)]

theorem overlayExpected_eq_nil_iff {base upper : ExpectedSet} :
    overlayExpected base upper = [] <-> base = [] ∧ upper = [] := by
  induction upper generalizing base with
  | nil => exact ⟨fun h => ⟨h, rfl⟩, fun h => h.1⟩
  | cons said upper ih =>
      rw [overlayExpected_cons, ih]
      exact iff_of_false (fun h => Keyed.put_ne_nil _ _ _ h.1) (fun h => nomatch h.2)

/-!
## The list of values
-/

theorem exists_said_of_expectedTestMetrics {values : String} {base : ExpectedSet}
    (h : expectedTestMetrics values = .ok base) :
    exists said, said ≠ [] ∧ base = Keyed.ofPairs said := by
  unfold expectedTestMetrics at h
  dsimp only at h
  split at h
  · cases h
  · rename_i hlength
    rcases exists_of_bind_eq_ok h with ⟨said, hsaid, hsame⟩
    refine ⟨said, ?_, (Except.ok.inj hsame).symm⟩
    have hmany := (mapM_eq_ok_iff.mp hsaid).length_eq
    rw [List.length_zip, Decidable.not_not.mp hlength] at hmany
    rintro rfl
    cases hmany

theorem expectedTestMetrics_ne_nil {values : String} {base : ExpectedSet}
    (h : expectedTestMetrics values = .ok base) : base ≠ [] := by
  rcases exists_said_of_expectedTestMetrics h with ⟨said, hne, rfl⟩
  exact mt Keyed.ofPairs_eq_nil_iff.mp hne

theorem ordered_of_expectedTestMetrics? {testValues : Option String} {base : ExpectedSet}
    (h : expectedTestMetrics? testValues = .ok base) : Keyed.Ordered base := by
  cases testValues with
  | none =>
      cases h
      exact List.Pairwise.nil
  | some values =>
      rcases exists_said_of_expectedTestMetrics h with ⟨said, _hne, rfl⟩
      exact Keyed.ordered_ofPairs said

/-!
## Failures
-/

def FailsAsConfig {α : Type} (read : Except Failure α) : Prop :=
  forall f, read = .error f -> exists reason, f = .configParse reason

theorem failsAsConfig_error {α : Type} (reason : String) :
    FailsAsConfig (.error (.configParse reason) : Except Failure α) := by
  intro f hf
  exact ⟨reason, (Except.error.inj hf).symm⟩

theorem failsAsConfig_ok {α : Type} (a : α) : FailsAsConfig (.ok a) := by
  intro f hf
  cases hf

theorem FailsAsConfig.bind {α β : Type} {read : Except Failure α} {next : α -> Except Failure β}
    (h : FailsAsConfig read) (hnext : forall a, FailsAsConfig (next a)) :
    FailsAsConfig (read >>= next) := by
  cases read with
  | error e =>
      intro f hf
      cases hf
      exact h e rfl
  | ok a => exact hnext a

theorem FailsAsConfig.mapM {α β : Type} {read : α -> Except Failure β}
    (h : forall a, FailsAsConfig (read a)) (xs : List α) : FailsAsConfig (xs.mapM read) := by
  intro f hf
  rcases exists_of_mapM_eq_error hf with ⟨a, _ha, hread⟩
  exact h a f hread

theorem failsAsConfig_read (text : String) : FailsAsConfig (Expected.read text) := by
  unfold Expected.read
  dsimp only
  split
  · exact failsAsConfig_ok _
  · split
    · exact failsAsConfig_ok _
    · exact failsAsConfig_error _

theorem failsAsConfig_expectedFromPairs (pairs : List (String × String)) :
    FailsAsConfig (expectedFromPairs pairs) := by
  refine .bind (.mapM ?_ pairs) fun said => failsAsConfig_ok _
  intro pair
  exact .bind (failsAsConfig_read pair.2) fun expected => failsAsConfig_ok _

theorem failsAsConfig_splitEntry (entry : String) : FailsAsConfig (splitEntry entry) := by
  unfold splitEntry
  split
  · exact failsAsConfig_error _
  · exact failsAsConfig_ok _

theorem failsAsConfig_expectedTestMetrics? (testValues : Option String) :
    FailsAsConfig (expectedTestMetrics? testValues) := by
  cases testValues with
  | none => exact failsAsConfig_ok _
  | some values =>
      change FailsAsConfig (expectedTestMetrics values)
      unfold expectedTestMetrics
      dsimp only
      split
      · exact failsAsConfig_error _
      · exact failsAsConfig_expectedFromPairs _

theorem failsAsConfig_expectedFromEntries (testValues : Option String) (entries : List String) :
    FailsAsConfig (expectedFromEntries testValues entries) := by
  refine (failsAsConfig_expectedTestMetrics? testValues).bind fun base => ?_
  refine (FailsAsConfig.mapM failsAsConfig_splitEntry entries).bind fun pairs => ?_
  refine (failsAsConfig_expectedFromPairs pairs).bind fun upper => ?_
  dsimp only
  split
  · exact failsAsConfig_error _
  · exact failsAsConfig_ok _

/-!
## The whole
-/

theorem expectedFromEntries_eq_ok_iff {testValues : Option String} {entries : List String}
    {set : ExpectedSet} :
    expectedFromEntries testValues entries = .ok set <->
      exists base upper, expectedTestMetrics? testValues = .ok base ∧
        readEntries entries = .ok upper ∧ set = overlayExpected base upper ∧ set ≠ [] := by
  constructor
  · intro h
    rcases exists_of_bind_eq_ok h with ⟨base, hbase, h⟩
    rcases exists_of_bind_eq_ok h with ⟨pairs, hpairs, h⟩
    rcases exists_of_bind_eq_ok h with ⟨upper, hupper, h⟩
    dsimp only at h
    split at h
    · cases h
    · rename_i hne
      cases h
      exact ⟨base, upper, hbase, bind_eq_ok hpairs hupper, rfl, mt List.isEmpty_iff.mpr hne⟩
  · rintro ⟨base, upper, hbase, hread, rfl, hne⟩
    rcases exists_of_bind_eq_ok hread with ⟨pairs, hpairs, hupper⟩
    refine bind_eq_ok hbase (bind_eq_ok hpairs (bind_eq_ok hupper ?_))
    dsimp only
    rw [if_neg (mt List.isEmpty_iff.mp hne)]
    rfl

/-- Both sources can be read, and one of them is given. -/
structure Readable (testValues : Option String) (entries : List String) : Prop where
  values : forall values, testValues = some values ->
    exists base, expectedTestMetrics values = .ok base
  each : forall entry, entry ∈ entries -> exists metric text expected,
    Assigns entry metric text ∧ Expected.read text = .ok expected
  given : testValues ≠ none ∨ entries ≠ []

theorem exists_expectedFromEntries_iff (testValues : Option String) (entries : List String) :
    (exists set, expectedFromEntries testValues entries = .ok set) <->
      Readable testValues entries := by
  simp only [expectedFromEntries_eq_ok_iff]
  constructor
  · rintro ⟨set, base, upper, hbase, hupper, rfl, hne⟩
    refine ⟨?_, ?_, ?_⟩
    · rintro values rfl
      exact ⟨base, hbase⟩
    · intro entry hentry
      rcases exists_readEntries_iff.mp ⟨upper, hupper⟩ entry hentry with
        ⟨⟨metric, expected⟩, text, hassigns, hread⟩
      exact ⟨metric, text, expected, hassigns, hread⟩
    · by_contra hnone
      rw [not_or, not_not, not_not] at hnone
      rcases hnone with ⟨rfl, rfl⟩
      cases hbase
      cases hupper
      exact hne rfl
  · intro h
    have hdemands : forall entry, entry ∈ entries -> exists said, Demands entry said := by
      intro entry hentry
      rcases h.each entry hentry with ⟨metric, text, expected, hassigns, hread⟩
      exact ⟨(metric, expected), text, hassigns, hread⟩
    rcases exists_readEntries_iff.mpr hdemands with ⟨upper, hupper⟩
    cases testValues with
    | none =>
        have hentries : entries ≠ [] := h.given.resolve_left fun hne => hne rfl
        refine ⟨_, [], upper, rfl, hupper, rfl, ?_⟩
        rcases readEntries_eq_ok_iff.mp hupper with ⟨said, hsaid, rfl⟩
        intro hnil
        rw [Keyed.ofPairs_eq_nil_iff.mp (overlayExpected_eq_nil_iff.mp hnil).2,
          List.forall₂_nil_right_iff] at hsaid
        exact hentries hsaid
    | some values =>
        rcases h.values values rfl with ⟨base, hbase⟩
        refine ⟨_, base, upper, hbase, hupper, rfl, ?_⟩
        intro hnil
        exact expectedTestMetrics_ne_nil hbase (overlayExpected_eq_nil_iff.mp hnil).1

/-- What decides on a metric: the last entry on it, or the list of values if no entry is on it. -/
inductive Decides (testValues : Option String) (entries : List String) (metric : String) :
    Expected -> Prop
  | entry {entry text : String} {expected : Expected} (hlast : Last (IsOn metric) entries entry)
      (hassigns : Assigns entry metric text) (hread : Expected.read text = .ok expected) :
      Decides testValues entries metric expected
  | values {values : String} {base : ExpectedSet} {expected : Expected}
      (hnone : forall entry, entry ∈ entries -> ¬IsOn metric entry)
      (hvalues : testValues = some values) (hbase : expectedTestMetrics values = .ok base)
      (hfind : base.find? metric = some expected) : Decides testValues entries metric expected

theorem find?_expectedTestMetrics?_iff {testValues : Option String} {base : ExpectedSet}
    (h : expectedTestMetrics? testValues = .ok base) (metric : String) (expected : Expected) :
    base.find? metric = some expected <->
      exists values base, testValues = some values ∧ expectedTestMetrics values = .ok base ∧
        base.find? metric = some expected := by
  cases testValues with
  | none =>
      cases h
      exact iff_of_false (fun hfind => nomatch hfind) (fun ⟨_, _, hvalues, _⟩ => nomatch hvalues)
  | some values =>
      constructor
      · intro hfind
        exact ⟨values, base, rfl, h, hfind⟩
      · rintro ⟨values', base', hvalues, hbase, hfind⟩
        cases hvalues
        cases Except.ok.inj (h.symm.trans hbase)
        exact hfind

theorem find?_readEntries_eq_none_iff {entries : List String} {upper : ExpectedSet}
    (h : readEntries entries = .ok upper) (metric : String) :
    upper.find? metric = none <-> forall entry, entry ∈ entries -> ¬IsOn metric entry := by
  have hdemands := exists_readEntries_iff.mp ⟨upper, h⟩
  constructor
  · intro hnone entry hentry hon
    rcases Last.of_mem hentry hon with ⟨last, hlast⟩
    rcases hdemands last hlast.mem with ⟨⟨metric', expected⟩, hdemand⟩
    cases hdemand.isOn_iff.mp hlast.holds
    have hfind := (find?_readEntries h metric' expected).mpr ⟨last, hlast, hdemand⟩
    rw [hnone] at hfind
    cases hfind
  · intro hnone
    cases hfind : upper.find? metric with
    | none => rfl
    | some expected =>
        rcases (find?_readEntries h metric expected).mp hfind with ⟨entry, hlast, _hdemand⟩
        exact absurd hlast.holds (hnone entry hlast.mem)

theorem find?_expectedFromEntries_iff {testValues : Option String} {entries : List String}
    {set : ExpectedSet} (h : expectedFromEntries testValues entries = .ok set) (metric : String)
    (expected : Expected) :
    set.find? metric = some expected <-> Decides testValues entries metric expected := by
  rcases expectedFromEntries_eq_ok_iff.mp h with ⟨base, upper, hbase, hupper, rfl, _hne⟩
  have hordered : Keyed.Ordered upper := by
    rcases readEntries_eq_ok_iff.mp hupper with ⟨said, _hsaid, rfl⟩
    exact Keyed.ordered_ofPairs said
  rw [find?_overlayExpected base (Keyed.nodup_keys_of_ordered hordered), Option.or_eq_some_iff,
    find?_readEntries hupper, find?_readEntries_eq_none_iff hupper,
    find?_expectedTestMetrics?_iff hbase]
  constructor
  · rintro (⟨entry, hlast, text, hassigns, hread⟩ | ⟨hnone, values, base', hvalues, hread, hfind⟩)
    · exact .entry hlast hassigns hread
    · exact .values hnone hvalues hread hfind
  · intro hdecides
    cases hdecides with
    | entry hlast hassigns hread => exact Or.inl ⟨_, hlast, _, hassigns, hread⟩
    | values hnone hvalues hread hfind => exact Or.inr ⟨hnone, _, _, hvalues, hread, hfind⟩

/--
Expectations are made exactly if everything given can be read and something is given; every failure
is one of a text. In what is made, each metric has what decides on it, and no other metric is in it.
-/
theorem expectedFromEntries_settled_by_last_entry (testValues : Option String)
    (entries : List String) :
    ((exists set, expectedFromEntries testValues entries = .ok set) <->
      Readable testValues entries) ∧
    (forall f, expectedFromEntries testValues entries = .error f ->
      exists reason, f = .configParse reason) ∧
    forall set, expectedFromEntries testValues entries = .ok set ->
      Keyed.Ordered set ∧ forall metric expected,
        set.find? metric = some expected <-> Decides testValues entries metric expected := by
  refine ⟨exists_expectedFromEntries_iff testValues entries,
    failsAsConfig_expectedFromEntries testValues entries, ?_⟩
  intro set hset
  refine ⟨?_, find?_expectedFromEntries_iff hset⟩
  rcases expectedFromEntries_eq_ok_iff.mp hset with ⟨base, upper, hbase, _hupper, rfl, _hne⟩
  exact ordered_overlayExpected (ordered_of_expectedTestMetrics? hbase) upper

theorem expectedFromEntries_of_repeated_metric_settled :
    exists set,
      expectedFromEntries (some "1, 2,3,4,5.5,600ms")
        [" tests =8", "coverage= 61.5 ", "tests=None"] = .ok set ∧
      Readable (some "1, 2,3,4,5.5,600ms") [" tests =8", "coverage= 61.5 ", "tests=None"] ∧
      Decides (some "1, 2,3,4,5.5,600ms") [" tests =8", "coverage= 61.5 ", "tests=None"]
        "tests" .absent ∧
      Decides (some "1, 2,3,4,5.5,600ms") [" tests =8", "coverage= 61.5 ", "tests=None"]
        "skipped_tests" (.value (.ofNat false 4)) ∧
      forall expected,
        ¬Decides (some "1, 2,3,4,5.5,600ms") [" tests =8", "coverage= 61.5 ", "tests=None"]
          "lines" expected := by
  have hset : expectedFromEntries (some "1, 2,3,4,5.5,600ms")
      [" tests =8", "coverage= 61.5 ", "tests=None"] =
        .ok [("coverage", .value (.ofRatio false 123 2)),
          ("skipped_tests", .value (.ofNat false 4)),
          ("test_errors", .value (.ofNat false 3)), ("test_failures", .value (.ofNat false 2)),
          ("test_success_density", .value (.ofRatio false 11 2)), ("tests", .absent)] := by
    decide +kernel
  rcases expectedFromEntries_settled_by_last_entry (some "1, 2,3,4,5.5,600ms")
    [" tests =8", "coverage= 61.5 ", "tests=None"] with ⟨hreadable, _hfailure, hfind⟩
  rcases hfind _ hset with ⟨_hordered, hdecides⟩
  refine ⟨_, hset, hreadable.mp ⟨_, hset⟩, (hdecides _ _).mp (by rfl),
    (hdecides _ _).mp (by decide +kernel), ?_⟩
  intro expected h
  have hnone := (hdecides "lines" expected).mpr h
  cases hnone

end Measures
end AnalysisHarness
