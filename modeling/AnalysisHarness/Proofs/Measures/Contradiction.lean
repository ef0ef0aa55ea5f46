import AnalysisHarness.Measures.Check
import AnalysisHarness.Proofs.Json.Number
import AnalysisHarness.Proofs.Text.Ends

/-!
# Lines that contradict themselves

A line on a metric that differs shows what is reported. Read as an expectation, what it shows is
not what was expected, so that the line makes sense. The exception is a metric that should have no
value and is reported as a string, with blanks around it or without them, that spells out the word
for a metric that has none.
-/

namespace AnalysisHarness
namespace Measures

open Text

/-!
## Trimmed texts
-/

theorem trimChars_eq_self {cs : List Char} (h : Unpadded cs) : trimChars cs = cs := by
  have htrim := (trim_eq_self_iff (String.ofList cs)).mpr (by rwa [String.toList_ofList])
  rwa [← String.toList_inj, toList_trim, String.toList_ofList] at htrim

theorem trimChars_of_solid {cs : List Char} (h : Decimal.Solid cs) : trimChars cs = cs := by
  apply trimChars_eq_self
  constructor
  · intro c hc
    exact h c (List.mem_of_head? hc)
  · intro c hc
    exact h c (List.mem_of_getLast? hc)

theorem exists_trimChars_cons {c : Char} (hc : isBlank c = false) (cs : List Char) :
    exists rest, trimChars (c :: cs) = c :: rest := by
  have hkept : trimChars (c :: cs) = dropEndWhile isBlank (c :: cs) := by
    rw [trimChars, List.dropWhile_cons_of_neg (by rw [hc]; exact Bool.false_ne_true)]
  rw [hkept]
  cases hend : dropEndWhile isBlank (c :: cs) with
  | nil =>
      have hblank := List.rdropWhile_eq_nil_iff.mp hend c List.mem_cons_self
      rw [hc] at hblank
      cases hblank
  | cons d rest =>
      have hprefix := prefix_dropEndWhile isBlank (c :: cs)
      rw [hend] at hprefix
      rw [(List.cons_prefix_cons.mp hprefix).1]
      exact ⟨rest, rfl⟩

/-!
## Expectations read from texts
-/

theorem ne_absentWord_of_read {text : String} {number : Binary64}
    (h : Decimal.read text.toList = some number) : text ≠ absentWord := by
  rintro rfl
  have hnone : Decimal.read absentWord.toList = none := by decide
  rw [hnone] at h
  cases h

theorem Expected.read_of_number {text : String} {number : Binary64}
    (h : Decimal.read (trimChars text.toList) = some number) :
    Expected.read text = .ok (.value number) := by
  rw [← toList_trim] at h
  unfold Expected.read
  dsimp only
  rw [if_neg (ne_absentWord_of_read h), h]

theorem Expected.read_of_word {text : String} (h : trim text = absentWord) :
    Expected.read text = .ok .absent := by
  unfold Expected.read
  dsimp only
  rw [if_pos h]

theorem Expected.read_ne_ok {text : String} (hnumber : Decimal.read (trimChars text.toList) = none)
    (hword : trim text ≠ absentWord) (read : Expected) : Expected.read text ≠ .ok read := by
  rw [← toList_trim] at hnumber
  unfold Expected.read
  dsimp only
  rw [if_neg hword, hnumber]
  exact nofun

theorem Expected.read_bracket_ne_ok {c : Char} (hc : c = '[' ∨ c = '\x7b') (rest : List Char)
    (read : Expected) : Expected.read (String.ofList (c :: rest)) ≠ .ok read := by
  have hblank : isBlank c = false := by rcases hc with rfl | rfl <;> rfl
  rcases exists_trimChars_cons hblank rest with ⟨kept, hkept⟩
  apply Expected.read_ne_ok
  · rw [String.toList_ofList, hkept]
    rcases hc with rfl | rfl <;>
      exact Decimal.read_eq_none rfl rfl (by decide) (by decide) (by decide)
  · rw [trim, String.toList_ofList, hkept]
    intro hword
    have hhead := congrArg (fun word : String => word.toList.head?) hword
    rw [String.toList_ofList, List.head?_cons] at hhead
    rcases hc with rfl | rfl <;> cases hhead

/-!
## What is shown
-/

/-- What is shown stands for the number or for no value, or it is no expectation at all. -/
inductive Legible : Option Measured -> Prop
  | value {number : Binary64} {written : String}
      (h : Expected.read written = .ok (.value number)) : Legible (some (.value number written))
  | word {written : String} (h : trim written = absentWord) : Legible (some (.unparsable written))
  | text {written : String} (h : forall read, Expected.read written ≠ .ok read) :
      Legible (some (.unparsable written))
  | null : Legible (some .null)
  | missing : Legible none

theorem ofJson_of_word {text : String} (h : trim text = absentWord) :
    Measured.ofJson (.string text) = .unparsable text := by
  have hnone : Decimal.read (trimChars text.toList) = none := by
    rw [← toList_trim, h]
    decide
  rw [Measured.ofJson, hnone]

theorem legible_number {n : Json.Number} (h : n.Sound) :
    Legible (some (Measured.ofJson (.number n))) := by
  apply Legible.value
  apply Expected.read_of_number
  rw [String.toList_ofList, trimChars_of_solid (Json.Number.solid_write n)]
  exact h.read_write

theorem legible_string (s : String) : Legible (some (Measured.ofJson (.string s))) := by
  rw [Measured.ofJson]
  cases hread : Decimal.read (trimChars s.toList) with
  | some number =>
      apply Legible.value
      apply Expected.read_of_number
      rw [toList_trim, trimChars_eq_self (unpadded_trimChars s.toList)]
      exact hread
  | none =>
      by_cases hword : trim s = absentWord
      · exact .word hword
      · exact .text (Expected.read_ne_ok hread hword)

theorem legible_ofJson {j : Json} (h : j.Sound) : Legible (some (Measured.ofJson j)) := by
  cases h with
  | null => exact .null
  | @bool b =>
      have htext : forall read, Expected.read (Json.bool b).compact ≠ .ok read := by
        intro read
        apply Expected.read_ne_ok
        · cases b <;> decide
        · cases b <;> decide
      exact .text htext
  | number hn => exact legible_number hn
  | @string s => exact legible_string s
  | @array items _ =>
      apply Legible.text
      cases items with
      | nil => exact Expected.read_bracket_ne_ok (Or.inl rfl) _
      | cons item items => exact Expected.read_bracket_ne_ok (Or.inl rfl) _
  | @object members _ =>
      apply Legible.text
      cases members with
      | nil => exact Expected.read_bracket_ne_ok (Or.inr rfl) _
      | cons member members => exact Expected.read_bracket_ne_ok (Or.inr rfl) _

theorem legible_of_measure? {measure : Json} (h : measure.Sound) {metric : String}
    {got : Measured} (hmeasure : measure? measure = some (metric, got)) : Legible (some got) := by
  unfold measure? at hmeasure
  split at hmeasure
  · split at hmeasure
    · rename_i hvalue
      cases hmeasure
      exact legible_ofJson (h.of_member? hvalue)
    · cases hmeasure
      exact .null
  · cases hmeasure

theorem sound_of_mem_measuresOf {resource measure : Json} (h : resource.Sound)
    (hmeasure : measure ∈ measuresOf resource) : measure.Sound := by
  unfold measuresOf at hmeasure
  split at hmeasure
  · rename_i hmeasures
    cases h.of_member? hmeasures with
    | array hitems => exact hitems measure hmeasure
  · cases hmeasure

/-- Whatever a body reports for a metric, it is shown by a text that stands for it. -/
theorem legible_of_readMeasures {body : String} {measured : MeasuredSet}
    (h : readMeasures body = .ok measured) (metric : String) : Legible (measured.find? metric) := by
  cases hfind : measured.find? metric with
  | none => exact .missing
  | some got =>
      unfold readMeasures at h
      split at h
      · cases h
      · rename_i hread
        cases h
        cases Json.sound_of_read hread with
        | array hitems =>
            have hresource := hitems _ List.mem_cons_self
            have hpair := Keyed.mem_of_mem_ofPairs (Keyed.mem_of_find? hfind)
            rcases List.mem_filterMap.mp hpair with ⟨measure, hmem, hmeasure⟩
            exact legible_of_measure? (sound_of_mem_measuresOf hresource hmem) hmeasure
      · cases h

/-!
## Contradictions
-/

def Expected.same : Expected -> Expected -> Bool
  | value wanted, value number => wanted.eq number
  | absent, absent => true
  | _, _ => false

def Contradicts (wanted : Expected) (got : Option Measured) : Prop :=
  exists read, Expected.read (shown got) = .ok read ∧ wanted.same read = true

/-- A metric is reported as a string that spells out the word for no value. -/
def ReportedWord (got : Option Measured) : Prop :=
  exists text, trim text = absentWord ∧ got = some (Measured.ofJson (.string text))

theorem ReportedWord.unparsable {got : Option Measured} (h : ReportedWord got) :
    exists text, trim text = absentWord ∧ got = some (.unparsable text) := by
  rcases h with ⟨text, htext, hgot⟩
  rw [ofJson_of_word htext] at hgot
  exact ⟨text, htext, hgot⟩

theorem reportedWord_of_trim {text : String} (h : trim text = absentWord) :
    ReportedWord (some (.unparsable text)) :=
  ⟨text, h, by rw [ofJson_of_word h]⟩

theorem ReportedWord.read_shown {got : Option Measured} (h : ReportedWord got) :
    Expected.read (shown got) = .ok .absent := by
  rcases h.unparsable with ⟨text, htext, rfl⟩
  exact Expected.read_of_word htext

theorem ReportedWord.matchesExpected_eq_false {got : Option Measured} (h : ReportedWord got)
    (wanted : Expected) : matchesExpected wanted got = false := by
  rcases h.unparsable with ⟨text, _, rfl⟩
  cases wanted <;> rfl

/-- Unless the word is reported, what is shown stands for what the metric matches. -/
theorem matchesExpected_eq_same {got : Option Measured} (h : Legible got)
    (hword : ¬ReportedWord got) {read : Expected} (hread : Expected.read (shown got) = .ok read)
    (wanted : Expected) : matchesExpected wanted got = wanted.same read := by
  have habsent : Expected.read absentWord = .ok .absent := rfl
  cases h with
  | value hwritten =>
      cases hwritten.symm.trans hread
      cases wanted <;> rfl
  | word htrim => exact absurd (reportedWord_of_trim htrim) hword
  | text hnone => exact absurd hread (hnone read)
  | null =>
      cases habsent.symm.trans hread
      cases wanted <;> rfl
  | missing =>
      cases habsent.symm.trans hread
      cases wanted <;> rfl

theorem Expected.eq_absent_of_same {wanted : Expected} (h : wanted.same absent = true) :
    wanted = absent := by
  cases wanted with
  | value number => cases h
  | absent => rfl

theorem Expected.same_self {expected : Expected} (h : expected ≠ value .nan) :
    expected.same expected = true := by
  cases expected with
  | absent => rfl
  | value number =>
      cases number with
      | nan => exact absurd rfl h
      | infinite negative => cases negative <;> rfl
      | finite negative m e => simp [Expected.same, Binary64.eq]

/-- What is shown can be what was wanted only if no value was wanted and the word is reported. -/
theorem contradicts_iff {wanted : Expected} {got : Option Measured} (h : Legible got)
    (hdiffers : matchesExpected wanted got = false) :
    Contradicts wanted got <-> wanted = .absent ∧ ReportedWord got := by
  constructor
  · rintro ⟨read, hread, hsame⟩
    by_cases hword : ReportedWord got
    · cases hword.read_shown.symm.trans hread
      exact ⟨Expected.eq_absent_of_same hsame, hword⟩
    · rw [matchesExpected_eq_same h hword hread, hsame] at hdiffers
      cases hdiffers
  · rintro ⟨rfl, hword⟩
    exact ⟨.absent, hword.read_shown, rfl⟩

/-- What is shown is what the metric matches, unless the word is reported. -/
theorem matchesExpected_shown_iff {replaced : Expected} {got : Option Measured} (h : Legible got)
    (hread : Expected.read (shown got) = .ok replaced) (hnan : replaced ≠ .value .nan) :
    matchesExpected replaced got = true <-> ¬ReportedWord got := by
  constructor
  · intro hmatches hword
    rw [hword.matchesExpected_eq_false] at hmatches
    cases hmatches
  · intro hword
    rw [matchesExpected_eq_same h hword hread]
    exact Expected.same_self hnan

/-!
## Lines
-/

theorem ordered_of_expectedFromPairs {pairs : List (String × String)} {expected : ExpectedSet}
    (h : expectedFromPairs pairs = .ok expected) : Keyed.Ordered expected := by
  rcases exists_of_bind_eq_ok h with ⟨read, _, hread⟩
  cases hread
  exact Keyed.ordered_ofPairs read

/-- A metric is held to an expectation that it does not match. -/
structure Differs (expected : ExpectedSet) (measured : MeasuredSet) (metric : String)
    (wanted : Expected) : Prop where
  held : expected.find? metric = some wanted
  differs : matchesExpected wanted (measured.find? metric) = false

theorem mem_diff_iff {expected : ExpectedSet} (h : Keyed.Ordered expected) (measured : MeasuredSet)
    (line : String) :
    line ∈ diff expected measured <-> exists metric wanted,
      Differs expected measured metric wanted ∧
        mismatchLine metric (measured.find? metric) = line := by
  unfold diff
  rw [List.mem_filterMap]
  constructor
  · rintro ⟨⟨metric, wanted⟩, hmem, hline⟩
    dsimp only at hline
    split at hline
    · cases hline
    · rename_i hdiffers
      have hheld := (Keyed.mem_iff_find? h).mp hmem
      exact ⟨metric, wanted, ⟨hheld, Bool.eq_false_iff.mpr hdiffers⟩, Option.some.inj hline⟩
  · rintro ⟨metric, wanted, hdiffers, rfl⟩
    refine ⟨(metric, wanted), (Keyed.mem_iff_find? h).mpr hdiffers.held, ?_⟩
    exact if_neg (Bool.eq_false_iff.mp hdiffers.differs)

theorem diff_filter_of_match {expected : ExpectedSet} {measured : MeasuredSet} {metric : String}
    (h : forall wanted, (metric, wanted) ∈ expected ->
      matchesExpected wanted (measured.find? metric) = true) :
    diff (expected.filter fun entry => entry.1 ≠ metric) measured = diff expected measured := by
  unfold diff
  rw [List.filterMap_filter]
  apply List.filterMap_congr
  rintro ⟨other, wanted⟩ hmem
  by_cases heq : other = metric
  · subst heq
    simp [h wanted hmem]
  · simp [heq]

theorem diff_put_of_match {expected : ExpectedSet} (hordered : Keyed.Ordered expected)
    {measured : MeasuredSet} {metric : String} {wanted : Expected}
    (h : matchesExpected wanted (measured.find? metric) = true) :
    diff (Keyed.put metric wanted expected) measured =
      diff (expected.filter fun entry => entry.1 ≠ metric) measured := by
  rw [← Keyed.filter_put metric wanted expected]
  apply (diff_filter_of_match _).symm
  intro held hmem
  have hfind := (Keyed.mem_iff_find? (Keyed.ordered_put metric wanted hordered)).mp hmem
  rw [Keyed.find?_put, if_pos rfl] at hfind
  cases hfind
  exact h

/--
The lines are about the metrics that differ. What a line shows is what was expected only where no
value was expected and a string spells out the word for that. Other than in that case, a metric
held to what is shown for it matches and adds no line, whatever is expected of other metrics.
-/
theorem diff_contradicts_only_reported_word {pairs : List (String × String)}
    {expected : ExpectedSet} {body : String} {measured : MeasuredSet}
    (hexpected : expectedFromPairs pairs = .ok expected)
    (hbody : readMeasures body = .ok measured) :
    (forall line, line ∈ diff expected measured <-> exists metric wanted,
      Differs expected measured metric wanted ∧
        mismatchLine metric (measured.find? metric) = line) ∧
    (forall metric wanted, Differs expected measured metric wanted ->
      (Contradicts wanted (measured.find? metric) <->
        wanted = .absent ∧ ReportedWord (measured.find? metric))) ∧
    (forall metric replaced, Expected.read (shown (measured.find? metric)) = .ok replaced ->
      replaced ≠ .value .nan ->
      (matchesExpected replaced (measured.find? metric) = true <->
        ¬ReportedWord (measured.find? metric)) ∧
      (¬ReportedWord (measured.find? metric) ->
        diff (Keyed.put metric replaced expected) measured =
          diff (expected.filter fun entry => entry.1 ≠ metric) measured)) := by
  have hordered := ordered_of_expectedFromPairs hexpected
  have hlegible := legible_of_readMeasures hbody
  refine ⟨mem_diff_iff hordered measured, ?_, ?_⟩
  · intro metric wanted hdiffers
    exact contradicts_iff (hlegible metric) hdiffers.differs
  · intro metric replaced hread hnan
    have hmatches := matchesExpected_shown_iff (hlegible metric) hread hnan
    exact ⟨hmatches, fun hword => diff_put_of_match hordered (hmatches.mpr hword)⟩

def differingBody : String :=
  "[\x7b\"msr\":[\x7b\"key\":\"tests\",\"val\":13\x7d,\x7b\"key\":\"density\",\"val\":99.5\x7d," ++
    "\x7b\"key\":\"lines\",\"val\":\" 1.5 \"\x7d,\x7b\"key\":\"coverage\"\x7d]\x7d]"

theorem diff_of_differingBody_consistent :
    exists expected measured,
      expectedFromPairs [("tests", "12"), ("lines", "None"), ("density", " 1e2 ")] = .ok expected ∧
      readMeasures differingBody = .ok measured ∧
      diff expected measured =
        ["\tdensity is actually 99.5", "\tlines is actually 1.5", "\ttests is actually 13"] ∧
      (forall metric wanted, Differs expected measured metric wanted ->
        ¬Contradicts wanted (measured.find? metric)) ∧
      diff (Keyed.put "tests" (.value (.ofNat false 13)) expected) measured =
        ["\tdensity is actually 99.5", "\tlines is actually 1.5"] := by
  have hexpected :
      expectedFromPairs [("tests", "12"), ("lines", "None"), ("density", " 1e2 ")] =
        .ok [("density", .value (.ofNat false 100)), ("lines", .absent),
          ("tests", .value (.ofNat false 12))] := by
    decide +kernel
  have hbody : readMeasures differingBody =
      .ok [("coverage", .null), ("density", .value (.ofRatio false 199 2) "99.5"),
        ("lines", .value (.ofRatio false 3 2) "1.5"),
        ("tests", .value (.ofNat false 13) "13")] := by
    decide +kernel
  rcases diff_contradicts_only_reported_word hexpected hbody with ⟨_, hcontradicts, hreplaced⟩
  refine ⟨_, _, hexpected, hbody, by decide +kernel, ?_, ?_⟩
  · intro metric wanted hdiffers hcontradicts'
    rcases ((hcontradicts metric wanted hdiffers).mp hcontradicts').2.unparsable with
      ⟨text, _, hgot⟩
    have hmem := Keyed.mem_of_find? hgot
    simp at hmem
  · have hread : Expected.read "13" = .ok (.value (.ofNat false 13)) := by decide +kernel
    have hword : ¬ReportedWord (some (.value (.ofNat false 13) "13")) := by
      intro hword
      rcases hword.unparsable with ⟨text, _, hgot⟩
      cases hgot
    refine ((hreplaced "tests" _ hread (by decide +kernel)).2 hword).trans ?_
    decide +kernel

def wordBody : String :=
  "[\x7b\"msr\":[\x7b\"key\":\"coverage\",\"val\":\"None\"\x7d]\x7d]"

theorem diff_of_wordBody_contradicts :
    exists expected measured,
      expectedFromPairs [("coverage", "None")] = .ok expected ∧
      readMeasures wordBody = .ok measured ∧
      diff expected measured = ["\tcoverage is actually None"] ∧
      Expected.read "None" = .ok .absent ∧ expected.find? "coverage" = some .absent := by
  refine ⟨[("coverage", .absent)], [("coverage", .unparsable "None")], ?_⟩
  decide +kernel

end Measures
end AnalysisHarness
