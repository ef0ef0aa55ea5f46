import AnalysisHarness.Log.TaskUrl
import AnalysisHarness.Proofs.Text.Occurrences

/-!
# The last announcement

A line announces a task if it holds one of the two markers. What it announces follows the first
occurrence of the padded marker, or of the plain one if there is no padded one. Of several lines
that announce a task the last one counts, whatever it announces.
-/

namespace AnalysisHarness
namespace Log

open Text

def plainMarker : String := "INFO: More about the report processing at"

def paddedMarker : String := "INFO  - More about the report processing at"

def Mentions (marker line : String) : Prop :=
  marker.toList <:+: line.toList

def HasMarker (line : String) : Prop :=
  Mentions plainMarker line ∨ Mentions paddedMarker line

/-- What a line announces, which may be nothing but an empty text. -/
inductive Announces (line : String) : String -> Prop
  | padded {before after : List Char}
      (h : FirstOccurrence paddedMarker.toList before after line.toList) :
      Announces line (String.ofList (trimChars after))
  | plain {before after : List Char} (hpadded : ¬Mentions paddedMarker line)
      (h : FirstOccurrence plainMarker.toList before after line.toList) :
      Announces line (String.ofList (trimChars after))

/-!
## One line
-/

theorem afterMarker?_eq_some_iff {line marker url : String} :
    afterMarker? line marker = some url <-> exists before after,
      FirstOccurrence marker.toList before after line.toList ∧
        url = String.ofList (trimChars after) := by
  unfold afterMarker?
  constructor
  · intro h
    rcases Option.map_eq_some_iff.mp h with ⟨⟨before, after⟩, hsplit, hurl⟩
    exact ⟨before, after, splitFirst_eq_some_iff.mp hsplit, hurl.symm⟩
  · intro h
    rcases h with ⟨before, after, hoccurs, rfl⟩
    rw [splitFirst_eq_some_iff.mpr hoccurs]
    rfl

theorem afterMarker?_eq_none_iff {line marker : String} :
    afterMarker? line marker = none <-> ¬Mentions marker line := by
  unfold afterMarker? Mentions
  rw [Option.map_eq_none_iff, splitFirst_eq_none_iff]

/-- The announcement of a line, if it makes one: the padded marker goes before the plain one. -/
def announcement? (line : String) : Option String :=
  (afterMarker? line paddedMarker).or (afterMarker? line plainMarker)

theorem announcement?_eq_some_iff {line url : String} :
    announcement? line = some url <-> Announces line url := by
  unfold announcement?
  rw [Option.or_eq_some_iff]
  constructor
  · intro h
    rcases h with hpadded | ⟨hnone, hplain⟩
    · rcases afterMarker?_eq_some_iff.mp hpadded with ⟨before, after, hoccurs, rfl⟩
      exact .padded hoccurs
    · rcases afterMarker?_eq_some_iff.mp hplain with ⟨before, after, hoccurs, rfl⟩
      exact .plain (afterMarker?_eq_none_iff.mp hnone) hoccurs
  · intro h
    cases h with
    | padded hoccurs => exact Or.inl (afterMarker?_eq_some_iff.mpr ⟨_, _, hoccurs, rfl⟩)
    | plain hpadded hoccurs =>
        apply Or.inr
        constructor
        · exact afterMarker?_eq_none_iff.mpr hpadded
        · exact afterMarker?_eq_some_iff.mpr ⟨_, _, hoccurs, rfl⟩

theorem announcement?_eq_none_iff {line : String} :
    announcement? line = none <-> ¬HasMarker line := by
  unfold announcement? HasMarker
  rw [Option.or_eq_none_iff, afterMarker?_eq_none_iff, afterMarker?_eq_none_iff, not_or]
  exact and_comm

theorem hasMarker_iff {line : String} : HasMarker line <-> exists url, Announces line url := by
  constructor
  · intro h
    cases hline : announcement? line with
    | none => exact absurd h (announcement?_eq_none_iff.mp hline)
    | some url => exact ⟨url, announcement?_eq_some_iff.mp hline⟩
  · intro h
    rcases h with ⟨url, hannounces⟩
    apply Classical.byContradiction
    intro hnot
    rw [← announcement?_eq_none_iff, announcement?_eq_some_iff.mpr hannounces] at hnot
    cases hnot

/-!
## Several lines
-/

theorem taskUrlFrom_cons (url line : String) (lines : List String) :
    taskUrlFrom url (line :: lines) = taskUrlFrom ((announcement? line).getD url) lines := by
  have hmarkers : taskMarkers = [plainMarker, paddedMarker] := rfl
  unfold taskUrlFrom announcement?
  rw [List.foldl_cons, hmarkers, List.foldl_cons, List.foldl_cons, List.foldl_nil]
  cases afterMarker? line paddedMarker with
  | none => rw [Option.none_or, Option.getD_none]
  | some url' => rw [Option.some_or, Option.getD_some, Option.getD_some]

/-- The last line that announces a task overrides the ones before it. -/
theorem taskUrlFrom_eq (url : String) (lines : List String) :
    taskUrlFrom url lines = ((lines.filterMap announcement?).getLast?).getD url := by
  induction lines generalizing url with
  | nil => rfl
  | cons line lines ih =>
      rw [taskUrlFrom_cons, ih]
      cases hline : announcement? line with
      | none => rw [List.filterMap_cons_none hline, Option.getD_none]
      | some url' =>
          rw [List.filterMap_cons_some hline, List.getLast?_cons, Option.getD_some,
            Option.getD_some]

theorem filterMap_announcement?_eq_nil {lines : List String}
    (h : forall line, line ∈ lines -> ¬HasMarker line) : lines.filterMap announcement? = [] := by
  apply List.filterMap_eq_nil_iff.mpr
  intro line hline
  exact announcement?_eq_none_iff.mpr (h line hline)

theorem taskUrl_of_no_marker {lines : List String}
    (h : forall line, line ∈ lines -> ¬HasMarker line) : taskUrl lines = "" := by
  rw [taskUrl, taskUrlFrom_eq, filterMap_announcement?_eq_nil h]
  rfl

theorem taskUrl_of_last {before after : List String} {line url : String}
    (h : Announces line url) (hafter : forall later, later ∈ after -> ¬HasMarker later) :
    taskUrl (before ++ line :: after) = url := by
  rw [taskUrl, taskUrlFrom_eq, List.filterMap_append,
    List.filterMap_cons_some (announcement?_eq_some_iff.mpr h),
    filterMap_announcement?_eq_nil hafter, List.getLast?_append]
  rfl

theorem taskUrl_append_of_marker (a : List String) {b : List String}
    (h : exists line, line ∈ b ∧ HasMarker line) : taskUrl (a ++ b) = taskUrl b := by
  rcases h with ⟨line, hmem, hmarker⟩
  have hsome : b.filterMap announcement? ≠ [] := by
    intro hnil
    have hnone := List.filterMap_eq_nil_iff.mp hnil line hmem
    exact announcement?_eq_none_iff.mp hnone hmarker
  rw [taskUrl, taskUrl, taskUrlFrom_eq, taskUrlFrom_eq, List.filterMap_append,
    List.getLast?_append, List.getLast?_eq_some_getLast hsome, Option.some_or]

theorem taskUrl_append_of_no_marker (a : List String) {b : List String}
    (h : forall line, line ∈ b -> ¬HasMarker line) : taskUrl (a ++ b) = taskUrl a := by
  rw [taskUrl, taskUrl, taskUrlFrom_eq, taskUrlFrom_eq, List.filterMap_append,
    filterMap_announcement?_eq_nil h, List.append_nil]

end Log
end AnalysisHarness
