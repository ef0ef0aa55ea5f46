import AnalysisHarness.Proofs.Pattern.Spans
import AnalysisHarness.Log.LineClass

/-!
# Lines that hold a phrase

The pattern of a phrase begins at the start of the line, passes over characters that are no line
feed, and ends with the characters of the phrase. In a line without a line feed that is the search
for the phrase.
-/

namespace AnalysisHarness
namespace Pattern

open Unicode

namespace Node

theorem spans_seqAll_cons (a : Node) (others : List Node) (p q : Position) :
    (seqAll (a :: others)).Spans p q <-> exists m, a.Spans p m ∧ (seqAll others).Spans m q := by
  cases others with
  | nil =>
      constructor
      · intro h
        exact ⟨q, h, rfl⟩
      · intro h
        rcases h with ⟨m, ha, rfl⟩
        exact ha
  | cons b others => rfl

theorem proper_seqAll {nodes : List Node} (hnodes : forall n, n ∈ nodes -> n.Proper) :
    (seqAll nodes).Proper := by
  induction nodes with
  | nil => trivial
  | cons a others ih =>
      cases others with
      | nil => exact hnodes a (List.mem_singleton.mpr rfl)
      | cons b others =>
          refine ⟨hnodes a List.mem_cons_self, ih ?_⟩
          intro n hn
          exact hnodes n (List.mem_cons_of_mem a hn)

theorem spans_char_iff (c : Char) (p q : Position) :
    (char c).Spans p q <-> p.rest = c :: q.rest ∧ q.before = some c := by
  constructor
  · intro h
    rcases h with ⟨d, rest, hrest, hd, rfl⟩
    have hdc : d = c := by simpa [Char.toNat_inj] using hd
    rw [hrest, hdc]
    exact ⟨rfl, rfl⟩
  · intro h
    refine ⟨c, q.rest, h.1, by simp, ?_⟩
    rw [← h.2]

/-- A phrase before something that matches anywhere is matched where the text goes on with it. -/
theorem exists_spans_chars_iff (phrase : List Char) {others : List Node}
    (hothers : forall p, exists q, (seqAll others).Spans p q) (p : Position) :
    (exists q, (seqAll (phrase.map char ++ others)).Spans p q) <-> phrase <+: p.rest := by
  induction phrase generalizing p with
  | nil => exact iff_of_true (hothers p) (List.nil_prefix)
  | cons c phrase ih =>
      rw [List.map_cons, List.cons_append]
      constructor
      · intro h
        rcases h with ⟨q, hq⟩
        rcases (spans_seqAll_cons (char c) _ p q).mp hq with ⟨m, hfirst, hlater⟩
        rw [((spans_char_iff c p m).mp hfirst).1]
        exact List.cons_prefix_cons.mpr ⟨rfl, (ih m).mp ⟨q, hlater⟩⟩
      · intro h
        rcases h with ⟨rest, hrest⟩
        rcases (ih ⟨some c, phrase ++ rest⟩).mpr (List.prefix_append phrase rest) with ⟨q, hlater⟩
        have hfirst : (char c).Spans p ⟨some c, phrase ++ rest⟩ :=
          (spans_char_iff c p _).mpr ⟨hrest.symm, rfl⟩
        exact ⟨q, (spans_seqAll_cons (char c) _ p q).mpr ⟨_, hfirst, hlater⟩⟩

theorem spans_any_number_iff (a : Node) (p q : Position) :
    (rep a 0 none).Spans p q <-> exists k, Copies a.Spans k p q := by
  constructor
  · intro h
    rcases h with ⟨k, _hmin, _hmax, hcopies⟩
    exact ⟨k, hcopies⟩
  · intro h
    rcases h with ⟨k, hcopies⟩
    refine ⟨k, Nat.zero_le k, ?_, hcopies⟩
    intro m hm
    cases hm

theorem spans_run_iff (cls : CharClass) (p : Position) (rest : List Char) :
    (exists q, q.rest = rest ∧ (rep (one cls) 0 none).Spans p q) <->
      exists passed, p.rest = passed ++ rest ∧ forall c, c ∈ passed -> cls.has c.toNat = true := by
  constructor
  · intro h
    rcases h with ⟨q, rfl, hrun⟩
    rcases (spans_any_number_iff _ p q).mp hrun with ⟨k, hcopies⟩
    clear hrun
    induction k generalizing p with
    | zero =>
        cases hcopies
        exact ⟨[], rfl, fun c hc => absurd hc List.not_mem_nil⟩
    | succ k ih =>
        rcases hcopies with ⟨m, ⟨c, tail, hp, hc, rfl⟩, hcopies⟩
        rcases ih ⟨some c, tail⟩ hcopies with ⟨passed, htail, hpassed⟩
        have hwhole : p.rest = (c :: passed) ++ q.rest := by
          rw [hp, List.cons_append]
          exact congrArg (List.cons c) htail
        refine ⟨c :: passed, hwhole, ?_⟩
        intro d hd
        cases List.mem_cons.mp hd with
        | inl heq =>
            rw [heq]
            exact hc
        | inr hmem => exact hpassed d hmem
  · intro h
    rcases h with ⟨passed, hp, hpassed⟩
    induction passed generalizing p with
    | nil => exact ⟨p, hp, (spans_any_number_iff _ p p).mpr ⟨0, rfl⟩⟩
    | cons c passed ih =>
        have hothers : forall d, d ∈ passed -> cls.has d.toNat = true := by
          intro d hd
          exact hpassed d (List.mem_cons_of_mem c hd)
        rcases ih ⟨some c, passed ++ rest⟩ rfl hothers with ⟨q, hq, hrun⟩
        rcases (spans_any_number_iff _ _ q).mp hrun with ⟨k, hcopies⟩
        have hfirst : (one cls).Spans p ⟨some c, passed ++ rest⟩ :=
          ⟨c, passed ++ rest, hp, hpassed c List.mem_cons_self, rfl⟩
        exact ⟨q, hq, (spans_any_number_iff _ p q).mpr ⟨k + 1, _, hfirst, hcopies⟩⟩

def feedless : Node := rep (one (.compl (.single 10))) 0 none

theorem has_not_feed_iff (c : Char) :
    (CharClass.compl (.single 10)).has c.toNat = true <-> c ≠ '\n' := by
  rw [CharClass.has_compl, CharClass.has_single, Bool.not_eq_true', decide_eq_false_iff_not,
    show 10 = '\n'.toNat from rfl, Char.toNat_inj]

/-- After such a run a phrase may begin anywhere up to the first line feed. -/
theorem exists_spans_feedless_iff {n : Node} {phrase : List Char}
    (hn : forall p, (exists q, n.Spans p q) <-> phrase <+: p.rest) (p : Position) :
    (exists q, (seq feedless n).Spans p q) <->
      exists pre rest, p.rest = pre ++ (phrase ++ rest) ∧ '\n' ∉ pre := by
  constructor
  · intro h
    rcases h with ⟨q, m, hrun, hq⟩
    rcases (hn m).mp ⟨q, hq⟩ with ⟨rest, hrest⟩
    rcases (spans_run_iff _ p m.rest).mp ⟨m, rfl, hrun⟩ with ⟨pre, hpre, hmembers⟩
    refine ⟨pre, rest, hpre.trans (congrArg (pre ++ ·) hrest.symm), ?_⟩
    intro hmem
    exact (has_not_feed_iff '\n').mp (hmembers '\n' hmem) rfl
  · intro h
    rcases h with ⟨pre, rest, hp, hpre⟩
    have hmembers : forall c, c ∈ pre -> (CharClass.compl (.single 10)).has c.toNat = true := by
      intro c hc
      apply (has_not_feed_iff c).mpr
      intro heq
      rw [heq] at hc
      exact hpre hc
    rcases (spans_run_iff _ p _).mpr ⟨pre, hp, hmembers⟩ with ⟨m, hm, hrun⟩
    rcases (hn m).mpr ⟨rest, hm.symm⟩ with ⟨q, hq⟩
    exact ⟨q, m, hrun, hq⟩

theorem proper_feedless : feedless.Proper := ⟨trivial, fun _ h => nomatch h⟩

theorem exists_spans_feedless (p : Position) : exists q, feedless.Spans p q :=
  ⟨p, (spans_any_number_iff _ p p).mpr ⟨0, rfl⟩⟩

theorem occurs_textStart_iff (n : Node) (text : List Char) :
    (seq (look .textStart) n).Occurs none text <-> exists q, n.Spans ⟨none, text⟩ q := by
  constructor
  · intro h
    rcases h with ⟨pre, post, rfl, q, m, ⟨rfl, hstart⟩, hq⟩
    cases pre with
    | nil => exact ⟨q, hq⟩
    | cons c pre =>
        rw [List.getLast?_cons] at hstart
        cases hstart
  · intro h
    rcases h with ⟨q, hq⟩
    exact ⟨[], text, rfl, q, _, ⟨rfl, rfl⟩, hq⟩

end Node

theorem proper_holding (phrase : String) : (holding phrase).node.Proper := by
  refine ⟨trivial, Node.proper_feedless, Node.proper_seqAll ?_⟩
  intro n hn
  rcases List.mem_map.mp hn with ⟨c, _hc, rfl⟩
  trivial

theorem holding_isMatch_iff (phrase line : String) :
    (holding phrase).isMatch line = true <->
      exists pre rest, line.toList = pre ++ (phrase.toList ++ rest) ∧ '\n' ∉ pre := by
  have hnothing : forall p, exists q, (Node.seqAll []).Spans p q := fun p => ⟨p, rfl⟩
  have hchars := Node.exists_spans_chars_iff phrase.toList hnothing
  rw [List.append_nil] at hchars
  have hocc := occursIn_iff (proper_holding phrase) line.toList
  rw [show (holding phrase).isMatch line = (holding phrase).node.occursIn line.toList from rfl,
    hocc, holding, Node.occurs_textStart_iff]
  exact Node.exists_spans_feedless_iff hchars ⟨none, line.toList⟩

/-- In a line without a line feed the pattern of a phrase is the search for the phrase. -/
theorem holding_isMatch_eq_contains (phrase line : String) (hline : '\n' ∉ line.toList) :
    (holding phrase).isMatch line = Text.contains phrase line := by
  rw [Bool.eq_iff_iff, holding_isMatch_iff, Text.contains, Text.holds_iff]
  constructor
  · intro h
    rcases h with ⟨pre, rest, heq, _hpre⟩
    refine ⟨pre, rest, ?_⟩
    rw [heq, List.append_assoc]
  · intro h
    rcases h with ⟨pre, rest, heq⟩
    refine ⟨pre, rest, ?_, ?_⟩
    · rw [heq, List.append_assoc]
    · intro hmem
      apply hline
      rw [heq, List.append_assoc]
      exact List.mem_append_left _ hmem

end Pattern
end AnalysisHarness
