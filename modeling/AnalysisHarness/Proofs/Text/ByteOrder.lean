import AnalysisHarness.Text.Utf8
import Mathlib.Data.UInt
import Mathlib.Tactic.SplitIfs

/-!
# The order of bytes

Texts are ordered by their characters. Their bytes come in the same order. Beginnings of one length
are compared before what follows them.
-/

namespace AnalysisHarness
namespace Text

section Order

variable {α : Type} [LT α] [Std.Irrefl (fun x y : α => x < y)]

theorem append_lt_append_iff {xs ys : List α} (h : xs.length = ys.length) (xs' ys' : List α) :
    xs ++ xs' < ys ++ ys' <-> xs < ys ∨ xs = ys ∧ xs' < ys' := by
  induction xs generalizing ys with
  | nil =>
      cases ys with
      | nil => simp [List.lt_irrefl]
      | cons y ys => cases h
  | cons x xs ih =>
      cases ys with
      | nil => cases h
      | cons y ys =>
          rw [List.cons_append, List.cons_append, List.cons_lt_cons_iff, List.cons_lt_cons_iff,
            ih (Nat.succ.inj h), List.cons.injEq]
          constructor
          · rintro (hlt | ⟨rfl, hlt | ⟨rfl, hlt⟩⟩)
            · exact Or.inl (Or.inl hlt)
            · exact Or.inl (Or.inr ⟨rfl, hlt⟩)
            · exact Or.inr ⟨⟨rfl, rfl⟩, hlt⟩
          · rintro ((hlt | ⟨rfl, hlt⟩) | ⟨⟨rfl, rfl⟩, hlt⟩)
            · exact Or.inl hlt
            · exact Or.inr ⟨rfl, Or.inl hlt⟩
            · exact Or.inr ⟨rfl, Or.inr ⟨rfl, hlt⟩⟩

end Order

theorem encodeChar_append_lt {c d : Char} (h : c < d) (rest rest' : Bytes) :
    String.utf8EncodeChar c ++ rest < String.utf8EncodeChar d ++ rest' := by
  have hlt : c.val.toNat < d.val.toNat := h
  have hbound : d.val.toNat < 0x110000 := by
    rcases d.valid with h | h
    · omega
    · omega
  unfold String.utf8EncodeChar
  generalize c.val.toNat = v at hlt
  generalize d.val.toNat = w at hlt hbound
  have htwice : forall n, n / 4096 = n / 64 / 64 := fun n => (Nat.div_div_eq_div_mul n 64 64).symm
  have hthrice : forall n, n / 262144 = n / 64 / 64 / 64 := fun n => by
    rw [Nat.div_div_eq_div_mul, Nat.div_div_eq_div_mul]
  -- a longer character has a greater first byte, and otherwise the six-bit digits decide
  dsimp only
  split_ifs
  all_goals
    simp only [List.cons_append, List.nil_append, List.cons_lt_cons_iff, UInt8.lt_iff_toNat_lt,
      ← UInt8.toNat_inj, UInt8.toNat_ofNat', htwice, hthrice]
    omega

theorem flatMap_encodeChar_lt {cs ds : List Char} (h : cs < ds) :
    cs.flatMap String.utf8EncodeChar < ds.flatMap String.utf8EncodeChar := by
  induction cs generalizing ds with
  | nil =>
      cases ds with
      | nil => exact absurd h (List.lt_irrefl [])
      | cons d ds =>
          rw [List.flatMap_nil, List.flatMap_cons]
          cases hd : String.utf8EncodeChar d with
          | nil => exact absurd hd String.utf8EncodeChar_ne_nil
          | cons b bytes => exact List.nil_lt_cons _ _
  | cons c cs ih =>
      cases ds with
      | nil => exact absurd h (List.not_lt_nil _)
      | cons d ds =>
          rw [List.flatMap_cons, List.flatMap_cons]
          rcases List.cons_lt_cons_iff.mp h with hchar | ⟨rfl, hrest⟩
          · exact encodeChar_append_lt hchar _ _
          · exact List.append_left_lt (ih hrest)

/-- A text that comes before another one does so byte by byte, too. -/
theorem encode_lt_encode {a b : String} (h : a < b) : encode a < encode b :=
  flatMap_encodeChar_lt (String.lt_iff.mp h)

theorem encode_lt_encode_iff {a b : String} : encode a < encode b <-> a < b := by
  constructor
  · intro h
    rw [String.lt_iff]
    by_contra hnot
    rcases List.le_iff_lt_or_eq.mp (List.not_lt.mp hnot) with hback | hsame
    · exact List.lt_asymm h (flatMap_encodeChar_lt hback)
    · rw [String.toList_inj.mp hsame] at h
      exact List.lt_irrefl _ h
  · exact encode_lt_encode

end Text
end AnalysisHarness
