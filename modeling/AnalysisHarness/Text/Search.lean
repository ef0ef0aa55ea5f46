/-!
# Searching in texts

The first occurrence of a phrase, and the replacement of all its occurrences from left to right.
-/

namespace AnalysisHarness
namespace Text

def afterPhrase [DecidableEq α] : List α -> List α -> Option (List α)
  | [], rest => some rest
  | _ :: _, [] => none
  | p :: phrase, x :: rest => if p = x then afterPhrase phrase rest else none

def holds [DecidableEq α] (phrase : List α) : List α -> Bool
  | [] => phrase.isEmpty
  | x :: rest => (afterPhrase phrase (x :: rest)).isSome || holds phrase rest

def splitFirst [DecidableEq α] (phrase : List α) : List α -> Option (List α × List α)
  | [] => if phrase.isEmpty then some ([], []) else none
  | x :: rest =>
      match afterPhrase phrase (x :: rest) with
      | some tail => some ([], tail)
      | none => (splitFirst phrase rest).map fun (before, tail) => (x :: before, tail)

/-- Passes over `skip` elements, then writes `new` for each occurrence of `old`. -/
def replaceFrom [DecidableEq α] (old new : List α) : Nat -> List α -> List α
  | _, [] => []
  | skip + 1, _ :: rest => replaceFrom old new skip rest
  | 0, x :: rest =>
      if (afterPhrase old (x :: rest)).isSome then
        new ++ replaceFrom old new (old.length - 1) rest
      else x :: replaceFrom old new 0 rest

/-- The sequence with every occurrence of `old`, found from left to right, written as `new`. -/
def replaceAll [DecidableEq α] (old new xs : List α) : List α :=
  replaceFrom old new 0 xs

def contains (phrase s : String) : Bool :=
  holds phrase.toList s.toList

def replace (old new s : String) : String :=
  String.ofList (replaceAll old.toList new.toList s.toList)

def startsWith (phrase s : String) : Bool :=
  (afterPhrase phrase.toList s.toList).isSome

section Laws

variable {α : Type} [DecidableEq α]

theorem afterPhrase_append (phrase rest : List α) :
    afterPhrase phrase (phrase ++ rest) = some rest := by
  induction phrase with
  | nil => rfl
  | cons p phrase ih => simp [afterPhrase, ih]

theorem afterPhrase_eq_some_iff {phrase xs rest : List α} :
    afterPhrase phrase xs = some rest <-> xs = phrase ++ rest := by
  constructor
  · intro h
    induction phrase generalizing xs with
    | nil => simpa [afterPhrase] using h
    | cons p phrase ih =>
        cases xs with
        | nil => simp [afterPhrase] at h
        | cons x xs =>
            simp only [afterPhrase] at h
            split at h
            · rename_i hp
              simp [hp, ih h]
            · simp at h
  · intro h
    rw [h]
    exact afterPhrase_append phrase rest

theorem holds_iff {phrase xs : List α} :
    holds phrase xs = true <-> exists before rest, xs = before ++ phrase ++ rest := by
  induction xs with
  | nil => simp [holds]
  | cons x xs ih =>
      simp only [holds, Bool.or_eq_true, ih, Option.isSome_iff_exists]
      constructor
      · intro h
        cases h with
        | inl h =>
            rcases h with ⟨rest, h⟩
            exact ⟨[], rest, by simpa using afterPhrase_eq_some_iff.mp h⟩
        | inr h =>
            rcases h with ⟨before, rest, h⟩
            exact ⟨x :: before, rest, by simp [h]⟩
      · intro h
        rcases h with ⟨before, rest, h⟩
        cases before with
        | nil => exact Or.inl ⟨rest, afterPhrase_eq_some_iff.mpr (by simpa using h)⟩
        | cons b before =>
            simp only [List.cons_append, List.cons.injEq] at h
            exact Or.inr ⟨before, rest, h.2⟩

end Laws

end Text
end AnalysisHarness
