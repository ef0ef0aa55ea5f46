/-!
# Segments and pieces

Two ways to cut a sequence at a separator. Segments leave the separator out, so there is always
one more segment than there are separators. Pieces keep the separator at their end, so joining
them gives the sequence back, and an empty sequence has no piece.
-/

namespace AnalysisHarness
namespace Text

/-- The parts of a sequence between occurrences of `sep`. -/
def segments [DecidableEq α] (sep : α) : List α -> List (List α)
  | [] => [[]]
  | x :: rest =>
      if x = sep then [] :: segments sep rest
      else
        match segments sep rest with
        | [] => [[x]]
        | first :: others => (x :: first) :: others

/-- The parts of a sequence, each ending with `sep`, the last one possibly without it. -/
def pieces [DecidableEq α] (sep : α) : List α -> List (List α)
  | [] => []
  | x :: rest =>
      if x = sep then [x] :: pieces sep rest
      else
        match pieces sep rest with
        | [] => [[x]]
        | first :: others => (x :: first) :: others

def joinSegments (sep : List α) : List (List α) -> List α
  | [] => []
  | [last] => last
  | first :: others => first ++ sep ++ joinSegments sep others

theorem joinSegments_cons_cons (sep first second : List α) (others : List (List α)) :
    joinSegments sep (first :: second :: others) =
      first ++ sep ++ joinSegments sep (second :: others) := rfl

theorem joinSegments_map_cons_cons (sep : List α) (f : β -> List α) (x y : β) (rest : List β) :
    joinSegments sep ((x :: y :: rest).map f) =
      f x ++ sep ++ joinSegments sep ((y :: rest).map f) := rfl

section Laws

variable {α : Type} [DecidableEq α]

@[simp] theorem segments_nil (sep : α) : segments sep [] = [[]] := rfl

@[simp] theorem pieces_nil (sep : α) : pieces sep [] = [] := rfl

theorem segments_ne_nil (sep : α) (xs : List α) : segments sep xs ≠ [] := by
  cases xs with
  | nil => simp
  | cons x rest =>
      unfold segments
      split
      · simp
      · split <;> simp

@[simp] theorem segments_cons_sep (sep : α) (rest : List α) :
    segments sep (sep :: rest) = [] :: segments sep rest := by
  simp [segments]

end Laws

end Text
end AnalysisHarness
