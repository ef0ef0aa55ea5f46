import AnalysisHarness.Log.LineClass
import AnalysisHarness.Proofs.Pattern.Holding
import Mathlib.Data.List.TakeWhile

/-!
# Classes by phrases

Lines are classified by patterns. What the patterns come to is which of five phrases stand in a
line before its first line feed. This module reads the patterns that way, also as they are written
in the pattern language, and from that each class.
-/

namespace AnalysisHarness

open Text

namespace Log

/-!
## What a line says
-/

/-- A phrase stands in a line before the first line feed of it. -/
def Says (phrase line : String) : Prop :=
  phrase.toList <:+: line.toList.takeWhile fun c => c != '\n'

def SaysHarmless (line : String) : Prop :=
  Says "H2 database should" line ∨ Says "Starting search" line ∨ Says "Starting web" line

def Suppressed (ignore : Option Pattern) (line : String) : Prop :=
  exists pattern, ignore = some pattern ∧ pattern.isMatch line = true

theorem says_iff {phrase : String} (hphrase : '\n' ∉ phrase.toList) (line : String) :
    Says phrase line <->
      exists pre rest, line.toList = pre ++ (phrase.toList ++ rest) ∧ '\n' ∉ pre := by
  have hfeed : forall cs : List Char, '\n' ∉ cs -> forall c, c ∈ cs -> (c != '\n') = true := by
    intro cs hcs c hc
    apply bne_iff_ne.mpr
    intro heq
    rw [heq] at hc
    exact hcs hc
  constructor
  · intro h
    rcases h with ⟨pre, post, hfirst⟩
    refine ⟨pre, post ++ line.toList.dropWhile fun c => c != '\n', ?_, ?_⟩
    · rw [← List.append_assoc phrase.toList, ← List.append_assoc pre, ← List.append_assoc pre,
        hfirst, List.takeWhile_append_dropWhile]
    · intro hmem
      have hbefore : '\n' ∈ line.toList.takeWhile fun c => c != '\n' := by
        rw [← hfirst, List.append_assoc]
        exact List.mem_append_left _ hmem
      have hnot := List.mem_takeWhile_imp hbefore
      exact absurd hnot (by decide)
  · intro h
    rcases h with ⟨pre, rest, hline, hpre⟩
    refine ⟨pre, rest.takeWhile fun c => c != '\n', ?_⟩
    rw [hline, List.takeWhile_append_of_pos (hfeed pre hpre),
      List.takeWhile_append_of_pos (hfeed phrase.toList hphrase), List.append_assoc]

theorem holding_isMatch_iff_of_phrase {phrase : String} (hphrase : '\n' ∉ phrase.toList)
    (line : String) : (Pattern.holding phrase).isMatch line = true <-> Says phrase line := by
  rw [Pattern.holding_isMatch_iff, says_iff hphrase]

theorem isBenign_iff (line : String) : isBenign line = true <-> SaysHarmless line := by
  have hdatabase := @holding_isMatch_iff_of_phrase "H2 database should" (by decide) line
  have hsearch := @holding_isMatch_iff_of_phrase "Starting search" (by decide) line
  have hweb := @holding_isMatch_iff_of_phrase "Starting web" (by decide) line
  simp [isBenign, benignPhrases, SaysHarmless, hdatabase, hsearch, hweb]

theorem isIgnored_iff (ignore : Option Pattern) (line : String) :
    isIgnored ignore line = true <-> Suppressed ignore line := by
  cases ignore with
  | none => simp [isIgnored, Suppressed]
  | some pattern => simp [isIgnored, Suppressed]

/-!
## Patterns as they are written

An anchor, a run of characters that are no line feed, and the phrase. Another such run behind the
phrase changes nothing, and neither does one anchor for several phrases.
-/

/-- A pattern that is written so matches the lines of a kind. -/
def Describes (text : String) (kind : String -> Prop) : Prop :=
  exists n, Pattern.Node.read text.toList = .ok n ∧
    forall line : String, n.occursIn line.toList = true <-> kind line

def phraseNode (phrase : String) (others : List Pattern.Node) : Pattern.Node :=
  .seq .feedless (.seqAll (phrase.toList.map .char ++ others))

theorem exists_spans_phraseNode_iff {phrase : String} {others : List Pattern.Node}
    (hphrase : '\n' ∉ phrase.toList)
    (hothers : forall p, exists q, (Pattern.Node.seqAll others).Spans p q) (line : String) :
    (exists q, (phraseNode phrase others).Spans ⟨none, line.toList⟩ q) <-> Says phrase line := by
  rw [says_iff hphrase]
  exact Pattern.Node.exists_spans_feedless_iff
    (Pattern.Node.exists_spans_chars_iff phrase.toList hothers) ⟨none, line.toList⟩

theorem proper_phraseNode {phrase : String} {others : List Pattern.Node}
    (hothers : forall n, n ∈ others -> n.Proper) : (phraseNode phrase others).Proper := by
  refine ⟨Pattern.Node.proper_feedless, Pattern.Node.proper_seqAll ?_⟩
  intro n hn
  cases List.mem_append.mp hn with
  | inl hchar =>
      rcases List.mem_map.mp hchar with ⟨c, _hc, rfl⟩
      trivial
  | inr hother => exact hothers n hother

theorem describes_of_read {text : String} {n : Pattern.Node} {kind : String -> Prop}
    (hread : Pattern.Node.read text.toList = .ok (.seq (.look .textStart) n)) (hproper : n.Proper)
    (h : forall line : String, (exists q, n.Spans ⟨none, line.toList⟩ q) <-> kind line) :
    Describes text kind := by
  refine ⟨_, hread, ?_⟩
  intro line
  have hboth : (Pattern.Node.seq (.look .textStart) n).Proper := ⟨trivial, hproper⟩
  rw [Pattern.occursIn_iff hboth, Pattern.Node.occurs_textStart_iff, h line]

theorem describes_phrase {text phrase : String}
    (hread : Pattern.Node.read text.toList =
      .ok (.seq (.look .textStart) (phraseNode phrase [.feedless])))
    (hphrase : '\n' ∉ phrase.toList) : Describes text (Says phrase) := by
  have hproper : (phraseNode phrase [.feedless]).Proper := by
    apply proper_phraseNode
    intro n hn
    rw [List.mem_singleton.mp hn]
    exact Pattern.Node.proper_feedless
  exact describes_of_read hread hproper
    (exists_spans_phraseNode_iff hphrase Pattern.Node.exists_spans_feedless)

theorem describes_error : Describes "^.* ERROR .*" (Says " ERROR ") :=
  describes_phrase (by rfl) (by decide)

theorem describes_warning : Describes "^.* WARN .*" (Says " WARN ") :=
  describes_phrase (by rfl) (by decide)

theorem describes_harmless :
    Describes "^(?:.*H2 database should.*|.*Starting search|.*Starting web)" SaysHarmless := by
  have hread : Pattern.Node.read
      "^(?:.*H2 database should.*|.*Starting search|.*Starting web)".toList =
        .ok (.seq (.look .textStart)
          (.alt (phraseNode "H2 database should" [.feedless])
            (.alt (phraseNode "Starting search" []) (phraseNode "Starting web" [])))) := by
    rfl
  have hrun : forall n : Pattern.Node, n ∈ [Pattern.Node.feedless] -> n.Proper := by
    intro n hn
    rw [List.mem_singleton.mp hn]
    exact Pattern.Node.proper_feedless
  have hnone : forall n : Pattern.Node, n ∈ [] -> n.Proper := fun _ hn => nomatch hn
  have hnothing : forall p, exists q, (Pattern.Node.seqAll []).Spans p q := fun p => ⟨p, rfl⟩
  refine describes_of_read hread
    ⟨proper_phraseNode hrun, proper_phraseNode hnone, proper_phraseNode hnone⟩ ?_
  intro line
  have hdatabase := @exists_spans_phraseNode_iff "H2 database should" [.feedless] (by decide)
    Pattern.Node.exists_spans_feedless line
  have hsearch := @exists_spans_phraseNode_iff "Starting search" [] (by decide) hnothing line
  have hweb := @exists_spans_phraseNode_iff "Starting web" [] (by decide) hnothing line
  rw [SaysHarmless, ← hdatabase, ← hsearch, ← hweb]
  simp only [Pattern.Node.Spans, exists_or]

/-!
## Classes
-/

/--
The class of a line, by the phrases that stand before its first line feed and by whether the ignore
pattern matches the line. The phrases of harmless warnings do not matter where an error is reported.
The patterns that the phrases stand for match just the lines that say them.
-/
theorem classify_by_phrases (ignore : Option Pattern) (line : String) :
    (classify ignore line = .error <-> Says " ERROR " line ∧ ¬Suppressed ignore line) ∧
    (classify ignore line = .warning <->
      ¬Says " ERROR " line ∧ Says " WARN " line ∧ ¬SaysHarmless line ∧
        ¬Suppressed ignore line) ∧
    (classify ignore line = .warningIgnored <->
      ¬Says " ERROR " line ∧ Says " WARN " line ∧
        (SaysHarmless line ∨ Suppressed ignore line)) ∧
    (classify ignore line = .normal <->
      Says " ERROR " line ∧ Suppressed ignore line ∨
        ¬Says " ERROR " line ∧ ¬Says " WARN " line) ∧
    Describes "^.* ERROR .*" (Says " ERROR ") ∧
    Describes "^.* WARN .*" (Says " WARN ") ∧
    Describes "^(?:.*H2 database should.*|.*Starting search|.*Starting web)" SaysHarmless := by
  have herror : errorPattern.isMatch line = true <-> Says " ERROR " line :=
    holding_isMatch_iff_of_phrase (by decide) line
  have hwarning : warningPattern.isMatch line = true <-> Says " WARN " line :=
    holding_isMatch_iff_of_phrase (by decide) line
  rw [← herror, ← hwarning, ← isBenign_iff, ← isIgnored_iff, classify]
  refine ⟨?_, ?_, ?_, ?_, describes_error, describes_warning, describes_harmless⟩
  all_goals
    cases errorPattern.isMatch line <;> cases warningPattern.isMatch line <;>
      cases isIgnored ignore line <;> cases isBenign line <;> simp

end Log
end AnalysisHarness
