import AnalysisHarness.Proofs.Json.Parts
import AnalysisHarness.Proofs.Json.Reprinting
import AnalysisHarness.Proofs.Measures.Responses

/-!
# Values as they stand in answers

The value of a metric stands somewhere in the body of an answer. What a line shows of it is compared
with its text there: the trimmed text of a number in a string is shown, and so is the text of an
integer of sixty-four bits. Other numbers are shown by the shortest digits that stand for what was
read, whatever the digits in the body are.
-/

namespace AnalysisHarness
namespace Measures

open Text Json Decimal

/-!
## Where values stand
-/

def Names (measure : Form) (metric : String) : Prop :=
  exists units, HasMember "key" measure (.string units) ∧ resolveString units = some metric

theorem metricOf?_eq_some_iff {measure : Json} {metric : String} :
    metricOf? measure = some metric <-> measure.member? "key" = some (.string metric) := by
  unfold metricOf?
  cases measure.member? "key" with
  | none => simp
  | some key => cases key <;> simp

theorem names_iff {form : Form} {text : List Char} {measure : Json} {metric : String}
    (h : Part form text measure) : Names form metric <-> metricOf? measure = some metric := by
  rcases h with ⟨_hwritten, depth, hmeans⟩
  rw [metricOf?_eq_some_iff]
  constructor
  · rintro ⟨units, hmember, hunits⟩
    rcases member?_of_hasMember hmeans hmember with ⟨key, inner, hkey, hinner⟩
    cases hinner with
    | string hs =>
        cases hs.symm.trans hunits
        exact hkey
  · intro hkey
    rcases exists_hasMember hmeans hkey with ⟨part, hmember, inner, hinner⟩
    cases hinner with
    | string hs => exact ⟨_, hmember, hs⟩

/-- Where in a body the value of the last measure of a metric stands. -/
inductive ValueAt (metric : String) (body : List Char) (piece : MemberPiece) : Prop
  | mk {resource measure : Form × List Char} {more measures : List (Form × List Char)}
      {members values : List MemberPiece} {msr : MemberPiece}
      (hbody : ArrayText (resource :: more) body) (hresource : ObjectText members resource.2)
      (hmsr : LastMember "msr" members msr) (hmeasures : ArrayText measures msr.valueText)
      (hmeasure : Last (fun measure => Names measure.1 metric) measures measure)
      (hvalues : ObjectText values measure.2) (hvalue : LastMember "val" values piece)

theorem exists_denotes_of_readMeasures {body : String} {measured : MeasuredSet}
    (h : readMeasures body = .ok measured) :
    exists resource more, Denotes body (.array (resource :: more)) ∧
      measured = Keyed.ofPairs ((measuresOf resource).filterMap measure?) := by
  rcases body_cases body with hnone | ⟨j, hj, hother⟩ | ⟨resource, more, hbody⟩
  · rcases readMeasures_of_no_value hnone with ⟨e, he⟩
    rw [he] at h
    cases h
  · rcases readMeasures_of_other hj hother with ⟨reason, hreason⟩
    rw [hreason] at h
    cases h
  · rw [readMeasures_of_denotes hbody] at h
    cases h
    exact ⟨resource, more, hbody, rfl⟩

/-- What stands there is what is told of the metric. -/
theorem ValueAt.tells {metric body : String} {piece : MemberPiece} {measured : MeasuredSet}
    (h : ValueAt metric body.toList piece) (hbody : readMeasures body = .ok measured) :
    exists j got, Part piece.value piece.valueText j ∧ measured.find? metric = some got ∧
      Tells (some j) got := by
  rcases exists_denotes_of_readMeasures hbody with ⟨resource, more, hdenotes, rfl⟩
  rcases exists_part_of_denotes hdenotes with ⟨form, hform⟩
  rcases h with ⟨harray, hresource, hmsr, hmeasures, hmeasure, hvalues, hvalue⟩
  rcases hform.values_of_arrayText harray with ⟨_, hitems, hparts⟩
  cases hitems
  rcases List.forall₂_cons.mp hparts with ⟨hfirst, _hmore⟩
  rcases hfirst.member?_of_lastMember hresource hmsr with ⟨j, hmember, hpart⟩
  rcases hpart.values_of_arrayText hmeasures with ⟨listed, rfl, hlisted⟩
  rcases hmeasure.transport hlisted names_iff with ⟨measure, hlast, hpart⟩
  rcases hpart.member?_of_lastMember hvalues hvalue with ⟨val, hval, hpart⟩
  have htells : Tells (some val) (Measured.ofJson val) := tells_iff.mpr rfl
  refine ⟨val, _, hpart, find?_iff_of_resource.mpr ⟨listed, measure, hmember, hlast, ?_⟩, htells⟩
  rw [hval]
  exact htells

theorem exists_valueAt {metric body : String} {measured : MeasuredSet} {number : Binary64}
    {written : String} (hbody : readMeasures body = .ok measured)
    (h : measured.find? metric = some (.value number written)) :
    exists piece j, ValueAt metric body.toList piece ∧ Part piece.value piece.valueText j ∧
      Tells (some j) (.value number written) := by
  rcases exists_denotes_of_readMeasures hbody with ⟨resource, more, hdenotes, rfl⟩
  rcases exists_part_of_denotes hdenotes with ⟨form, hform⟩
  rcases find?_iff_of_resource.mp h with ⟨listed, measure, hholds, hlast, htells⟩
  rcases hform.exists_arrayText (List.cons_ne_nil _ _) with ⟨items, harray, hparts⟩
  rcases List.forall₂_cons_right_iff.mp hparts with ⟨item, others, hfirst, _hmore, rfl⟩
  rcases hfirst.exists_lastMember hholds with ⟨members, msr, hresource, hmsr, hpart⟩
  rcases hpart.exists_arrayText (List.ne_nil_of_mem hlast.mem) with ⟨measures, hmeasures, hlisted⟩
  rcases hlast.transport hlisted.flip (fun hpart => (names_iff hpart).symm) with
    ⟨named, hmeasure, hpart⟩
  cases hval : measure.member? "val" with
  | none =>
      rw [hval] at htells
      cases htells
  | some val =>
      rw [hval] at htells
      rcases Part.exists_lastMember hpart hval with ⟨values, piece, hvalues, hvalue, hpart⟩
      exact ⟨piece, val, .mk harray hresource hmsr hmeasures hmeasure hvalues hvalue, hpart, htells⟩

/-!
## What lines show
-/

/-- There is a line on a metric, and it shows a text. -/
def Shows (expected : ExpectedSet) (measured : MeasuredSet) (metric text : String) : Prop :=
  mismatchLine metric (measured.find? metric) = "\t" ++ metric ++ " is actually " ++ text ∧
    mismatchLine metric (measured.find? metric) ∈ diff expected measured

section

variable {expected : ExpectedSet} {measured : MeasuredSet} {metric : String} {wanted : Expected}

theorem shows_of_differs (h : Keyed.Ordered expected)
    (hdiffers : Differs expected measured metric wanted) :
    Shows expected measured metric (shown (measured.find? metric)) :=
  ⟨rfl, (mem_diff_iff h measured _).mpr ⟨metric, wanted, hdiffers, rfl⟩⟩

theorem Shows.unique {text text' : String} (h : Shows expected measured metric text)
    (h' : Shows expected measured metric text') : text = text' := by
  have hlines := congrArg String.toList (h.1.symm.trans h'.1)
  simp only [String.toList_append] at hlines
  exact String.toList_inj.mp (List.append_cancel_left hlines)

theorem shows_string {body : String} {piece : MemberPiece} {units : List StringUnit} {s : String}
    {number : Binary64} (h : Keyed.Ordered expected) (hbody : readMeasures body = .ok measured)
    (hdiffers : Differs expected measured metric wanted)
    (hpiece : ValueAt metric body.toList piece) (hunits : piece.value = .string units)
    (hs : resolveString units = some s) (hread : Decimal.read (trimChars s.toList) = some number) :
    Shows expected measured metric (trim s) := by
  have hshows := shows_of_differs h hdiffers
  rcases hpiece.tells hbody with ⟨j, got, ⟨_hwritten, depth, hmeans⟩, hgot, htells⟩
  rw [hunits] at hmeans
  cases hmeans with
  | string hs' =>
      cases hs.symm.trans hs'
      rw [hgot, tells_iff.mp htells, Option.elim_some, Measured.ofJson, hread] at hshows
      exact hshows

theorem shows_number {body : String} {piece : MemberPiece} {t : NumberText} {token : List Char}
    (h : Keyed.Ordered expected) (hbody : readMeasures body = .ok measured)
    (hdiffers : Differs expected measured metric wanted)
    (hpiece : ValueAt metric body.toList piece) (ht : NumberWritten t token)
    (htoken : Spaced token piece.valueText) :
    exists n : Json.Number, t.value? = some n ∧
      Shows expected measured metric (String.ofList n.write) := by
  have hshows := shows_of_differs h hdiffers
  rcases hpiece.tells hbody with ⟨j, got, ⟨hwritten, depth, hmeans⟩, hgot, htells⟩
  rw [eq_of_written hwritten (htoken.written (.number ht))] at hmeans
  cases hmeans with
  | number hvalue =>
      rw [hgot, tells_iff.mp htells, Option.elim_some, Measured.ofJson] at hshows
      exact ⟨_, hvalue, hshows⟩

end

/--
The line on a metric that differs shows the value as it stands in the body if that is a number in a
string, without the blanks around it, or an integer of sixty-four bits. Any other token is shown by
the shortest digits of the number that was read, which is the token again only if the token has a
fraction or an exponent and no needless zero at the end of the fraction. Every value of a metric
that is a number stands somewhere in the body.
-/
theorem diff_shows_kept_tokens {expected : ExpectedSet} {body : String} {measured : MeasuredSet}
    (hexpected : Keyed.Ordered expected) (hbody : readMeasures body = .ok measured) :
    (forall metric wanted piece, Differs expected measured metric wanted ->
      ValueAt metric body.toList piece ->
      (forall units s number, piece.value = .string units -> resolveString units = some s ->
        Decimal.read (trimChars s.toList) = some number ->
        Shows expected measured metric (trim s)) ∧
      (forall t token, NumberWritten t token -> Spaced token piece.valueText ->
        (WordSized t -> Shows expected measured metric (String.ofList token)) ∧
        (¬WordSized t -> exists d, t.value? = some (.double d) ∧
          Decimal.read (Layout.compact.write d) = some d ∧
          Shows expected measured metric (String.ofList (Layout.compact.write d)) ∧
          (Shows expected measured metric (String.ofList token) <->
            Layout.compact.write d = token) ∧
          (Layout.compact.write d = token -> Terse token ∧ Trimmed t)))) ∧
    (forall metric number written, measured.find? metric = some (.value number written) ->
      exists piece, ValueAt metric body.toList piece ∧
        ((exists t token, NumberWritten t token ∧ Spaced token piece.valueText) ∨
          exists units, piece.value = .string units)) := by
  constructor
  · intro metric wanted piece hdiffers hpiece
    constructor
    · intro units s number hunits hs hread
      exact shows_string hexpected hbody hdiffers hpiece hunits hs hread
    · intro t token ht htoken
      rcases shows_number hexpected hbody hdiffers hpiece ht htoken with ⟨n, hvalue, hshows⟩
      rcases reprinted ht hvalue with ⟨hsized, hother⟩
      constructor
      · intro hsize
        rw [← hsized hsize]
        exact hshows
      · intro hsize
        rcases hother hsize with ⟨⟨d, rfl⟩, hterse⟩
        refine ⟨d, hvalue, (sound_of_value? hvalue).read_write, hshows, ⟨?_, ?_⟩, ?_⟩
        · intro hsame
          exact String.ofList_injective (hshows.unique hsame)
        · intro hsame
          rw [← hsame]
          exact hshows
        · intro hsame
          have htext := hterse hsame
          exact ⟨htext, trimmed_of_terse htext ht⟩
  · intro metric number written hfind
    rcases exists_valueAt hbody hfind with ⟨piece, j, hpiece, ⟨hwritten, depth, hmeans⟩, htells⟩
    refine ⟨piece, hpiece, ?_⟩
    generalize hvalue : piece.value = form at hwritten hmeans
    cases htells with
    | number =>
        cases hmeans with
        | number _ => exact Or.inl ⟨_, exists_token hwritten⟩
    | numeral _ =>
        cases hmeans with
        | string _ => exact Or.inr ⟨_, rfl⟩

/-!
## Answers with one value
-/

def memberPiece (key : String) (value : Form) (text : List Char) : MemberPiece :=
  ⟨printedUnits key, quote key, value, text⟩

def objectText (members : List MemberPiece) : List Char :=
  '\x7b' :: (joinSegments [','] (members.map MemberPiece.text) ++ ['\x7d'])

def measurePieces (metric : String) (value : Form) (text : List Char) : List MemberPiece :=
  [memberPiece "key" (.string (printedUnits metric)) (quote metric), memberPiece "val" value text]

def measuresPiece (metric : String) (value : Form) (text : List Char) : MemberPiece :=
  memberPiece "msr" (.array [.object ((measurePieces metric value text).map MemberPiece.member)])
    ('[' :: (objectText (measurePieces metric value text) ++ [']']))

def answerText (metric : String) (value : Form) (text : List Char) : List Char :=
  '[' :: (objectText [measuresPiece metric value text] ++ [']'])

theorem keyWritten_quote (key : String) : KeyWritten (printedUnits key) (quote key) := by
  have hkey := @KeyWritten.mk (printedUnits key) [] _ [] rfl (quoted_quote key) rfl
  rw [List.append_nil, List.nil_append] at hkey
  exact hkey

theorem lastMember_concat (members : List MemberPiece) (key : String) (value : Form)
    (text : List Char) :
    LastMember key (members ++ [memberPiece key value text]) (memberPiece key value text) :=
  .mk rfl (resolveString_printed key) (List.forall_mem_nil _)

theorem objectText_measurePieces (metric : String) {value : Form} {text : List Char}
    (h : Written value text) :
    ObjectText (measurePieces metric value text)
      (objectText (measurePieces metric value text)) where
  nonempty := List.cons_ne_nil _ _
  keys := List.forall_mem_cons.mpr
    ⟨keyWritten_quote "key", List.forall_mem_singleton.mpr (keyWritten_quote "val")⟩
  written := List.forall_mem_cons.mpr
    ⟨.string (quoted_quote metric), List.forall_mem_singleton.mpr h⟩
  spaced := .refl _

theorem names_measurePieces (metric : String) (value : Form) (text : List Char) :
    Names (.object ((measurePieces metric value text).map MemberPiece.member)) metric := by
  have hmetric := resolveString_printed metric
  refine ⟨printedUnits metric, .mk (.mk (List.nil_append _).symm ?_ ?_), hmetric⟩
  · exact resolveString_printed "key"
  · intro later hlater hkey
    rw [List.mem_singleton.mp hlater] at hkey
    have hval := (resolveString_printed "val").symm.trans hkey
    exact absurd (Option.some.inj hval) (by decide)

theorem valueAt_answerText (metric : String) {value : Form} {text : List Char}
    (h : Written value text) :
    ValueAt metric (answerText metric value text) (memberPiece "val" value text) := by
  have hmeasure := objectText_measurePieces metric h
  have hmeasures : ArrayText [(_, objectText (measurePieces metric value text))]
      (measuresPiece metric value text).valueText :=
    ⟨List.cons_ne_nil _ _, List.forall_mem_singleton.mpr hmeasure.written_object, .refl _⟩
  have hresource : ObjectText [measuresPiece metric value text]
      (objectText [measuresPiece metric value text]) :=
    ⟨List.cons_ne_nil _ _, List.forall_mem_singleton.mpr (keyWritten_quote "msr"),
      List.forall_mem_singleton.mpr hmeasures.written_array, .refl _⟩
  have hbody : ArrayText [(_, objectText [measuresPiece metric value text])]
      (answerText metric value text) :=
    ⟨List.cons_ne_nil _ _, List.forall_mem_singleton.mpr hresource.written_object, .refl _⟩
  exact .mk hbody hresource (lastMember_concat [] "msr" _ _) hmeasures
    (.mk (List.nil_append _).symm (names_measurePieces metric value text) (List.forall_mem_nil _))
    hmeasure (lastMember_concat [_] "val" value text)

def paddedBody : String :=
  "[\x7b\"msr\":[\x7b\"key\":\"coverage\",\"val\":61.50\x7d]\x7d]"

def paddedNumber : NumberText := ⟨false, ['6', '1'], ['5', '0'], none⟩

theorem paddedNumber_written : NumberWritten paddedNumber ['6', '1', '.', '5', '0'] := by
  have hwhole : Numeral ['6', '1'] := numeral_toDigits 61
  have hfraction : Numeral ['5', '0'] := numeral_toDigits 50
  exact NumberWritten.mk (t := paddedNumber) hwhole (by decide) (.digits hfraction) .none

theorem paddedBody_eq_answerText :
    paddedBody.toList =
      answerText "coverage" (.number paddedNumber) ['6', '1', '.', '5', '0'] := by
  decide +kernel

theorem readMeasures_paddedBody :
    readMeasures paddedBody = .ok [("coverage", .value (.ofRatio false 123 2) "61.5")] := by
  decide +kernel

theorem valueAt_paddedBody :
    ValueAt "coverage" paddedBody.toList
      (memberPiece "val" (.number paddedNumber) ['6', '1', '.', '5', '0']) := by
  rw [paddedBody_eq_answerText]
  exact valueAt_answerText "coverage" (.number paddedNumber_written)

theorem diff_rewrites_padded_token :
    exists expected measured piece,
      expectedFromPairs [("coverage", "50")] = .ok expected ∧
      readMeasures paddedBody = .ok measured ∧
      ValueAt "coverage" paddedBody.toList piece ∧
      piece.value = .number paddedNumber ∧ piece.valueText = ['6', '1', '.', '5', '0'] ∧
      diff expected measured = ["\tcoverage is actually 61.5"] ∧
      "\tcoverage is actually 61.50" ∉ diff expected measured := by
  have hexpected : expectedFromPairs [("coverage", "50")] =
      .ok [("coverage", .value (.ofNat false 50))] := by
    decide +kernel
  have hdiff : diff [("coverage", .value (.ofNat false 50))]
      [("coverage", .value (.ofRatio false 123 2) "61.5")] = ["\tcoverage is actually 61.5"] := by
    decide +kernel
  refine ⟨_, _, _, hexpected, readMeasures_paddedBody, valueAt_paddedBody, rfl, rfl, hdiff, ?_⟩
  rw [hdiff]
  decide

theorem diff_shows_integer_string_and_fraction :
    exists expected measured measured' measured'',
      Keyed.Ordered expected ∧
      readMeasures (String.ofList
        (answerText "coverage" (.number (integerText false 4)) [' ', '4'])) = .ok measured ∧
      readMeasures (String.ofList
        (answerText "coverage" (.string (printedUnits " 61.50 ")) (quote " 61.50 "))) =
          .ok measured' ∧
      readMeasures paddedBody = .ok measured'' ∧
      Shows expected measured "coverage" "4" ∧ Shows expected measured' "coverage" "61.50" ∧
      ¬Shows expected measured'' "coverage" "61.50" := by
  have hordered : Keyed.Ordered [("coverage", Expected.absent)] := List.pairwise_singleton _ _
  have hbody : readMeasures (String.ofList
      (answerText "coverage" (.number (integerText false 4)) [' ', '4'])) =
        .ok [("coverage", .value (.ofNat false 4) "4")] := by
    decide +kernel
  have hbody' : readMeasures (String.ofList
      (answerText "coverage" (.string (printedUnits " 61.50 ")) (quote " 61.50 "))) =
        .ok [("coverage", .value (.ofRatio false 123 2) "61.50")] := by
    decide +kernel
  have hdiffers : forall number written, Differs [("coverage", .absent)]
      [("coverage", .value number written)] "coverage" .absent :=
    fun _ _ => ⟨rfl, rfl⟩
  refine ⟨_, _, _, _, hordered, hbody, hbody', readMeasures_paddedBody, ?_, ?_, ?_⟩
  · have hnumber : NumberWritten (integerText false 4) ['4'] := numberWritten_integer false 4
    have hspaced : Spaced ['4'] [' ', '4'] := @Spaced.mk ['4'] [' '] [] rfl rfl
    have hpiece := valueAt_answerText "coverage" (hspaced.written (.number hnumber))
    rw [← String.toList_ofList (l := answerText _ _ _)] at hpiece
    have hshows := (diff_shows_kept_tokens hordered hbody).1 _ _ _ (hdiffers _ _) hpiece
    exact (hshows.2 _ _ hnumber hspaced).1 ⟨rfl, rfl, by decide⟩
  · have hpiece := valueAt_answerText "coverage" (.string (quoted_quote " 61.50 "))
    rw [← String.toList_ofList (l := answerText _ _ _)] at hpiece
    have hshows := (diff_shows_kept_tokens hordered hbody').1 _ _ _ (hdiffers _ _) hpiece
    have hread : Decimal.read (trimChars " 61.50 ".toList) = some (.ofRatio false 123 2) := by
      decide +kernel
    have htrim : trim " 61.50 " = "61.50" := by decide
    rw [← htrim]
    exact hshows.1 _ _ _ rfl (resolveString_printed _) hread
  · intro hsame
    have hshows := (diff_shows_kept_tokens hordered readMeasures_paddedBody).1 _ _ _
      (hdiffers _ _) valueAt_paddedBody
    have hsize : ¬WordSized paddedNumber := fun hsize => nomatch hsize.fraction
    rcases (hshows.2 _ _ paddedNumber_written (.refl _)).2 hsize with
      ⟨d, _hvalue, _hread, _hshows, hiff, htrimmed⟩
    have hlast := (htrimmed (hiff.mp hsame)).2.last (by decide)
    exact hlast rfl

end Measures
end AnalysisHarness
