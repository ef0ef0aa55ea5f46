import AnalysisHarness.Proofs.Outcome
import AnalysisHarness.Proofs.Pattern.Alternatives
import AnalysisHarness.Proofs.Text.Splitting

/-!
# Ignore text

Where its lines keep to themselves, an ignore text is accepted if each of its lines is, as far as
the limits on the size of a pattern allow, and matches what any of its lines matches.
-/

namespace AnalysisHarness
namespace Pattern

/-!
## Limits

A pattern with more alternatives is deeper and heavier.
-/

theorem depth_wholePart (parts : List Part) :
    (wholePart parts).depth = (Part.join Node.altAll parts).depth + 2 := by
  have hdepth : (wholePart parts).depth =
      1 + max (max 0 (1 + (Part.join Node.altAll parts).depth)) 0 := rfl
  rw [hdepth]
  omega

theorem node_wholePart (parts : List Part) :
    (wholePart parts).node = .seq (.look .textStart) (Part.join Node.altAll parts).node := rfl

theorem limited_eq_ok_iff {part : Part} {n : Node} :
    limited part = .ok n <->
      part.depth ≤ depthLimit ∧ part.node.weight ≤ weightLimit ∧ n = part.node := by
  rw [limited]
  constructor
  · intro h
    split at h
    · cases h
    · split at h
      · cases h
      · cases h
        exact ⟨by omega, by omega, rfl⟩
  · intro h
    rcases h with ⟨hdepth, hweight, rfl⟩
    rw [if_neg (Nat.not_lt.mpr hdepth), if_neg (Nat.not_lt.mpr hweight)]

theorem limited_cases (part : Part) :
    limited part = .ok part.node ∨ limited part = .error .tooDeep ∨
      limited part = .error .tooLarge := by
  rw [limited]
  split
  · exact Or.inr (Or.inl rfl)
  · split
    · exact Or.inr (Or.inr rfl)
    · exact Or.inl rfl

theorem limited_wholePart_of_sublist {parts more : List Part} {n : Node}
    (hsub : parts.Sublist more) (hne : parts ≠ []) (h : limited (wholePart more) = .ok n) :
    limited (wholePart parts) = .ok (wholePart parts).node := by
  rcases limited_eq_ok_iff.mp h with ⟨hdepth, hweight, _hn⟩
  have hdepths := Part.depth_join_le Node.altAll hsub
  have hweights := Part.weight_join_altAll_le hsub hne
  rw [depth_wholePart] at hdepth
  rw [node_wholePart, Node.weight] at hweight
  refine limited_eq_ok_iff.mpr ⟨?_, ?_, rfl⟩
  · rw [depth_wholePart]
    omega
  · rw [node_wholePart, Node.weight]
    omega

/-!
## Matching
-/

theorem isMatch_wholePart_iff {parts : List Part} (hne : parts ≠ [])
    (hproper : forall part, part ∈ parts -> part.node.Proper) (line : String) :
    (Pattern.mk (wholePart parts).node).isMatch line = true <->
      exists part, part ∈ parts ∧ exists q, part.node.Spans ⟨none, line.toList⟩ q := by
  have hjoin : (Part.join Node.altAll parts).node.Proper :=
    Part.proper_join (fun _ hnodes => Node.proper_altAll hnodes) hproper
  have hwhole : (wholePart parts).node.Proper := ⟨trivial, hjoin⟩
  rw [isMatch, occursIn_iff hwhole, node_wholePart, Node.occurs_textStart_iff]
  simp only [Part.spans_join_altAll_iff hne]
  constructor
  · intro h
    rcases h with ⟨q, part, hpart, hq⟩
    exact ⟨part, hpart, q, hq⟩
  · intro h
    rcases h with ⟨part, hpart, q, hq⟩
    exact ⟨q, part, hpart, hq⟩

theorem Alone.compile_eq {line : List Char} {parts : List Part} (h : Alone line parts) :
    compile (String.ofList line) = ((limited (wholePart parts)).mapError fun fault =>
      .mk fault (anchored (String.ofList line))).map Pattern.mk := by
  rw [Pattern.compile_eq, String.toList_ofList, h.read]

/-- What a line matches alone is what its alternatives match, if it is not too large. -/
theorem Alone.exists_isMatch_iff {line : List Char} {parts : List Part} (h : Alone line parts)
    (hlimited : limited (wholePart parts) = .ok (wholePart parts).node) (text : String) :
    (exists q, compile (String.ofList line) = .ok q ∧ q.isMatch text = true) <->
      exists part, part ∈ parts ∧ exists q, part.node.Spans ⟨none, text.toList⟩ q := by
  rw [← isMatch_wholePart_iff h.ne_nil h.proper, h.compile_eq, hlimited]
  constructor
  · intro h
    rcases h with ⟨q, hq, hmatch⟩
    cases hq
    exact hmatch
  · intro h
    exact ⟨_, rfl, h⟩

/-!
## The whole text
-/

theorem not_mem_of_mem_alternatives {text : String} {line : List Char}
    (h : line ∈ alternatives text) : '\n' ∉ line := by
  rcases List.mem_map.mp (List.mem_of_mem_filter h) with ⟨segment, hsegment, rfl⟩
  intro hmem
  have hin : '\n' ∈ segment := by
    have hsuffix := (List.dropWhile_suffix (· == '\r')).subset (List.mem_reverse.mp hmem)
    exact List.mem_reverse.mp hsuffix
  exact Text.not_mem_of_mem_segments hsegment hin

theorem ofIgnoreText_eq_none_iff (text : String) :
    ofIgnoreText text = .ok none <-> alternatives text = [] := by
  unfold ofIgnoreText
  cases hlines : alternatives text with
  | nil => exact ⟨fun _ => rfl, fun _ => rfl⟩
  | cons line others =>
      constructor
      · intro h
        rcases exists_of_map_eq_ok h with ⟨p, _hp, hnone⟩
        cases hnone
      · intro h
        cases h

theorem ofIgnoreText_of_ne_nil {text : String} (h : alternatives text ≠ []) :
    ofIgnoreText text =
      (compile (String.ofList (Text.joinSegments ['|'] (alternatives text)))).map some := by
  unfold ofIgnoreText
  cases hlines : alternatives text with
  | nil => exact absurd hlines h
  | cons line others => rfl

/-- What an ignore text ought to do by its lines, as far as limits on the size do not interfere. -/
structure ByLines (lines : List (List Char)) (read : Except ReadError (Option Pattern)) : Prop where
  /-- A text is accepted only where each of its lines is. -/
  each : forall p, read = .ok (some p) ->
    forall line, line ∈ lines -> exists q, compile (String.ofList line) = .ok q
  /-- Where each line is accepted, the text is, or it is too large. -/
  all : (forall line, line ∈ lines -> exists q, compile (String.ofList line) = .ok q) ->
    (exists p, read = .ok (some p)) ∨
      exists e, read = .error e ∧ (e.fault = .tooDeep ∨ e.fault = .tooLarge)
  /-- A text matches what any of its lines matches. -/
  any : forall p, read = .ok (some p) -> forall text : String, p.isMatch text = true <->
    exists line, line ∈ lines ∧
      exists q, compile (String.ofList line) = .ok q ∧ q.isMatch text = true

theorem byLines_singleton (line : List Char) :
    ByLines [line] ((compile (String.ofList line)).map some) := by
  refine ⟨?_, ?_, ?_⟩
  · intro p hp a ha
    rcases exists_of_map_eq_ok hp with ⟨q, hq, _hp⟩
    rw [List.mem_singleton.mp ha]
    exact ⟨q, hq⟩
  · intro h
    rcases h line List.mem_cons_self with ⟨q, hq⟩
    rw [hq]
    exact Or.inl ⟨q, rfl⟩
  · intro p hp text
    rcases exists_of_map_eq_ok hp with ⟨q, hq, heq⟩
    cases heq
    constructor
    · intro h
      exact ⟨line, List.mem_cons_self, p, hq, h⟩
    · intro h
      rcases h with ⟨a, ha, q', hq', hmatch⟩
      rw [List.mem_singleton.mp ha, hq] at hq'
      cases hq'
      exact hmatch

theorem byLines_of_error {lines : List (List Char)} {line : List Char} (hline : line ∈ lines)
    {fault : Fault} (hrefused : readLines [] [] line = .error fault) (e : ReadError) :
    ByLines lines (.error e) := by
  refine ⟨?_, ?_, ?_⟩
  · intro p hp
    cases hp
  · intro h
    rcases h line hline with ⟨q, hq⟩
    rw [compile_eq, String.toList_ofList, hrefused] at hq
    cases hq
  · intro p hp
    cases hp

theorem Alone.limited_of_mem {line : List Char} {parts : List Part} {each : List (List Part)}
    {n : Node} (halone : Alone line parts) (hparts : parts ∈ each)
    (h : limited (wholePart each.reverse.flatten) = .ok n) :
    limited (wholePart parts) = .ok (wholePart parts).node :=
  limited_wholePart_of_sublist (List.sublist_flatten_of_mem (List.mem_reverse.mpr hparts))
    halone.ne_nil h

section Each

variable {lines : List (List Char)} {each : List (List Part)}
variable (heach : List.Forall₂ Alone lines each)
include heach

theorem proper_flatten : forall part, part ∈ each.reverse.flatten -> part.node.Proper := by
  intro part hpart
  rcases List.mem_flatten.mp hpart with ⟨parts, hparts, hpart⟩
  rcases exists_mem_of_forall₂_right heach (List.mem_reverse.mp hparts) with ⟨line, _, halone⟩
  exact halone.proper part hpart

theorem flatten_ne_nil (hne : lines ≠ []) : each.reverse.flatten ≠ [] := by
  rcases List.exists_mem_of_ne_nil lines hne with ⟨line, hline⟩
  rcases exists_mem_of_forall₂_left heach hline with ⟨parts, hparts, halone⟩
  rcases List.exists_mem_of_ne_nil parts halone.ne_nil with ⟨part, hpart⟩
  exact List.ne_nil_of_mem (List.mem_flatten.mpr ⟨parts, List.mem_reverse.mpr hparts, hpart⟩)

theorem byLines_of_forall₂ (hne : lines ≠ []) (text : String) :
    ByLines lines ((((limited (wholePart each.reverse.flatten)).mapError fun fault =>
      .mk fault text).map Pattern.mk).map some) := by
  refine ⟨?_, ?_, ?_⟩
  · intro p hp line hline
    rcases exists_of_map_eq_ok hp with ⟨q, hq, _hp⟩
    rcases exists_of_map_eq_ok hq with ⟨n, hread, _hq⟩
    have hn := mapError_eq_ok_iff.mp hread
    rcases exists_mem_of_forall₂_left heach hline with ⟨parts, hparts, halone⟩
    rw [halone.compile_eq, halone.limited_of_mem hparts hn]
    exact ⟨_, rfl⟩
  · intro _h
    rcases limited_cases (wholePart each.reverse.flatten) with hok | hdeep | hlarge
    · rw [hok]
      exact Or.inl ⟨_, rfl⟩
    · rw [hdeep]
      exact Or.inr ⟨_, rfl, Or.inl rfl⟩
    · rw [hlarge]
      exact Or.inr ⟨_, rfl, Or.inr rfl⟩
  · intro p hp line
    rcases exists_of_map_eq_ok hp with ⟨q, hq, heq⟩
    cases heq
    rcases exists_of_map_eq_ok hq with ⟨n, hread, rfl⟩
    have hn := mapError_eq_ok_iff.mp hread
    rw [(limited_eq_ok_iff.mp hn).2.2,
      isMatch_wholePart_iff (flatten_ne_nil heach hne) (proper_flatten heach)]
    constructor
    · intro h
      rcases h with ⟨part, hpart, hspans⟩
      rcases List.mem_flatten.mp hpart with ⟨parts, hparts, hpart⟩
      have hparts := List.mem_reverse.mp hparts
      rcases exists_mem_of_forall₂_right heach hparts with ⟨a, ha, halone⟩
      have hlimited := halone.limited_of_mem hparts hn
      exact ⟨a, ha, (halone.exists_isMatch_iff hlimited line).mpr ⟨part, hpart, hspans⟩⟩
    · intro h
      rcases h with ⟨a, ha, hmatch⟩
      rcases exists_mem_of_forall₂_left heach ha with ⟨parts, hparts, halone⟩
      have hlimited := halone.limited_of_mem hparts hn
      rcases (halone.exists_isMatch_iff hlimited line).mp hmatch with ⟨part, hpart, hspans⟩
      exact ⟨part, List.mem_flatten.mpr ⟨parts, List.mem_reverse.mpr hparts, hpart⟩, hspans⟩

end Each

theorem byLines_of_separate {lines : List (List Char)} (hne : lines ≠ [])
    (hseparate : Separate lines) (hlines : forall line, line ∈ lines -> '\n' ∉ line) :
    ByLines lines ((compile (String.ofList (Text.joinSegments ['|'] lines))).map some) := by
  rw [compile_eq, String.toList_ofList]
  rcases readLines_joinSegments hne hseparate hlines [] (fun _ _ _ _ _ _ => List.not_mem_nil) with
    ⟨each, heach, hread⟩ | ⟨⟨fault, herror⟩, line, hline, _fault, hrefused⟩
  · rw [hread, List.append_nil]
    exact byLines_of_forall₂ heach hne _
  · rw [herror]
    exact byLines_of_error hline hrefused _

/--
Ignore text without a line stands for no pattern. Any other text does what its lines do, if there
is only one of them or none of them reaches past its end.
-/
theorem ofIgnoreText_by_lines (text : String) :
    (ofIgnoreText text = .ok none <-> alternatives text = []) ∧
    (alternatives text ≠ [] -> (alternatives text).length ≤ 1 ∨ Separate (alternatives text) ->
      ByLines (alternatives text) (ofIgnoreText text)) := by
  refine ⟨ofIgnoreText_eq_none_iff text, ?_⟩
  intro hne hlines
  rw [ofIgnoreText_of_ne_nil hne]
  rcases hlines with hone | hseparate
  · rcases List.length_eq_one_iff.mp (Nat.le_antisymm hone (List.length_pos_iff.mpr hne)) with
      ⟨line, hline⟩
    rw [hline]
    exact byLines_singleton line
  · exact byLines_of_separate hne hseparate fun line hline => not_mem_of_mem_alternatives hline

theorem ofIgnoreText_of_two_lines_by_lines :
    alternatives "a+\n(?<_>b|c)d" = ["a+".toList, "(?<_>b|c)d".toList] ∧
    Separate (alternatives "a+\n(?<_>b|c)d") ∧
    ByLines (alternatives "a+\n(?<_>b|c)d") (ofIgnoreText "a+\n(?<_>b|c)d") := by
  have hlines : alternatives "a+\n(?<_>b|c)d" = ["a+".toList, "(?<_>b|c)d".toList] := by
    decide +kernel
  have hfirst : Whole "a+".toList _ := ⟨rfl, rfl⟩
  have hsecond : Whole "(?<_>b|c)d".toList _ := ⟨rfl, rfl⟩
  have hseparate : Separate (alternatives "a+\n(?<_>b|c)d") := by
    rw [hlines]
    refine ⟨?_, ?_, ?_⟩
    · intro line hline
      rcases List.mem_pair.mp hline with rfl | rfl
      · exact Or.inr ⟨_, hfirst⟩
      · exact Or.inr ⟨_, hsecond⟩
    · intro line hline s hs
      rw [List.mem_singleton.mp hline] at hs
      cases hfirst.read.symm.trans hs.read
      rfl
    · refine List.pairwise_pair.mpr ?_
      intro s u hs hu name hname
      cases hfirst.read.symm.trans hs.read
      exact List.not_mem_nil
  exact ⟨hlines, hseparate,
    (ofIgnoreText_by_lines _).2 (by rw [hlines]; exact List.cons_ne_nil _ _) (Or.inr hseparate)⟩

/--
Lines that reach past their ends. A flag makes the blank before another line not count, so that the
text matches what neither line matches; two lines that are no patterns make one; two that are give
the same name, and the text is refused.
-/
theorem lines_reach_past_their_ends :
    (exists p, ofIgnoreText "(?x)a\n b" = .ok (some p) ∧ p.isMatch "b" = true ∧
      forall line, line ∈ alternatives "(?x)a\n b" ->
        exists q, compile (String.ofList line) = .ok q ∧ q.isMatch "b" = false) ∧
    ((exists p, ofIgnoreText "(a\nb)" = .ok (some p)) ∧
      forall line, line ∈ alternatives "(a\nb)" ->
        exists e, compile (String.ofList line) = .error e) ∧
    ((exists e, ofIgnoreText "(?<_>a)\n(?<_>b)" = .error e) ∧
      forall line, line ∈ alternatives "(?<_>a)\n(?<_>b)" ->
        exists q, compile (String.ofList line) = .ok q) := by
  have hflags : alternatives "(?x)a\n b" = ["(?x)a".toList, " b".toList] := by decide +kernel
  have hgroup : alternatives "(a\nb)" = ["(a".toList, "b)".toList] := by decide +kernel
  have hnames : alternatives "(?<_>a)\n(?<_>b)" = ["(?<_>a)".toList, "(?<_>b)".toList] := by
    decide +kernel
  rw [hflags, hgroup, hnames]
  refine ⟨⟨_, rfl, by decide +kernel, ?_⟩, ⟨⟨_, rfl⟩, ?_⟩, ⟨⟨_, rfl⟩, ?_⟩⟩
  · intro line hline
    rcases List.mem_pair.mp hline with rfl | rfl
    · exact ⟨_, rfl, by decide +kernel⟩
    · exact ⟨_, rfl, by decide +kernel⟩
  · intro line hline
    rcases List.mem_pair.mp hline with rfl | rfl
    · exact ⟨_, rfl⟩
    · exact ⟨_, rfl⟩
  · intro line hline
    rcases List.mem_pair.mp hline with rfl | rfl
    · exact ⟨_, rfl⟩
    · exact ⟨_, rfl⟩

end Pattern
end AnalysisHarness
