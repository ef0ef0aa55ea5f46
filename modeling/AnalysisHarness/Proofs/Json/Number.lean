import AnalysisHarness.Proofs.Decimal.Layout
import AnalysisHarness.Proofs.Json.Scalar
import AnalysisHarness.Proofs.Outcome
import AnalysisHarness.Proofs.Text.Entries

/-!
# Printed numbers

The numbers that JSON texts stand for are integers of sixty-four bits and double-precision numbers
in canonical form. Printed, each of them is a text that stands for the same double-precision
number, for a reader that knows nothing of JSON.
-/

namespace AnalysisHarness
namespace Json

open Decimal

/-!
## Numbers of texts
-/

/-- Numbers that a text can stand for. -/
inductive Number.Sound : Number -> Prop
  | integer {n : Number} (h : n.Kept) : Sound n
  | double {d : Binary64} (h : d.Canonical) : Sound (.double d)

theorem takeDigits_le {digits : List Char} {significand : Nat} (h : significand ≤ maxSignificand) :
    (takeDigits significand digits).1 ≤ maxSignificand := by
  induction digits generalizing significand with
  | nil => exact h
  | cons c digits ih =>
      rw [takeDigits]
      split
      · exact h
      · rename_i hnext
        exact ih (Nat.not_lt.mp hnext)

theorem of_scale_eq_some {fuel : Nat} {f g : Binary64} {exponent : Int}
    (h : scale fuel f exponent = some g) :
    (exists other, g = f.mul other) ∨ (exists other, g = f.div other) ∨ g = f ∨
      g = .zero false ∨
      exists more, fuel = more + 1 ∧
        scale more (f.div (powerOfTen 308)) (exponent + 308) = some g := by
  unfold scale at h
  split at h
  · split at h
    · dsimp only at h
      split at h
      · cases h
      · exact Or.inl ⟨_, (Option.some.inj h).symm⟩
    · exact Or.inr (Or.inl ⟨_, (Option.some.inj h).symm⟩)
  · split at h
    · exact Or.inr (Or.inr (Or.inl (Option.some.inj h).symm))
    · split at h
      · cases h
      · split at h
        · exact Or.inr (Or.inr (Or.inr (Or.inl (Option.some.inj h).symm)))
        · exact Or.inr (Or.inr (Or.inr (Or.inr ⟨_, rfl, h⟩)))

theorem canonical_of_scale {fuel : Nat} {f g : Binary64} {exponent : Int} (hf : f.Canonical)
    (h : scale fuel f exponent = some g) : g.Canonical := by
  induction fuel generalizing f exponent with
  | zero =>
      rcases of_scale_eq_some h with ⟨_, rfl⟩ | ⟨_, rfl⟩ | rfl | rfl | ⟨_, hfuel, _⟩
      · exact Binary64.canonical_mul _ _
      · exact Binary64.canonical_div _ _
      · exact hf
      · exact Binary64.canonical_zero _
      · cases hfuel
  | succ fuel ih =>
      rcases of_scale_eq_some h with ⟨_, rfl⟩ | ⟨_, rfl⟩ | rfl | rfl | ⟨more, hfuel, hmore⟩
      · exact Binary64.canonical_mul _ _
      · exact Binary64.canonical_div _ _
      · exact hf
      · exact Binary64.canonical_zero _
      · cases hfuel
        exact ih (Binary64.canonical_div _ _) hmore

theorem canonical_signed {f : Binary64} (h : f.Canonical) (negative : Bool) :
    (if negative then f.neg else f).Canonical := by
  cases negative with
  | true => exact Binary64.canonical_neg h
  | false => exact h

theorem sound_of_map_scale {fuel significand : Nat} {exponent : Int} {negative : Bool}
    {n : Number}
    (h : (scale fuel (.ofNat false significand) exponent).map
      (fun f => Number.double (if negative then f.neg else f)) = some n) : n.Sound := by
  rcases Option.map_eq_some_iff.mp h with ⟨f, hf, rfl⟩
  exact .double (canonical_signed
    (canonical_of_scale (Binary64.canonical_ofNat false significand) hf) negative)

/-- What a text stands for is a number that a text can stand for. -/
theorem sound_of_value? {t : NumberText} {n : Number} (h : t.value? = some n) : n.Sound := by
  unfold NumberText.value? at h
  have hle := @takeDigits_le t.whole 0 (Nat.zero_le _)
  cases htake : takeDigits 0 t.whole with
  | mk significand beyond =>
      rw [htake] at h hle
      dsimp only at h hle
      split at h
      · split at h
        · cases h
          exact .integer (.natural (by unfold maxSignificand at hle; omega))
        · split at h
          · rename_i hrange
            cases h
            exact .integer (.negative hrange.1 hrange.2)
          · cases h
            exact .double (Binary64.canonical_ofNat true significand)
      · split at h
        · exact sound_of_map_scale h
        · split at h
          · split at h
            · cases h
            · cases h
              exact .double (canonical_signed (Binary64.canonical_zero false) _)
          · exact sound_of_map_scale h

/-!
## Printed numbers
-/

theorem size_le_of_lt {n : Nat} (h : n < 2 ^ 64) : Literal.size n ≤ 20 :=
  (Literal.size_le_iff (by decide)).mpr (Nat.lt_trans h (by decide))

theorem toBinary64_integer {n : Nat} (h : n < 2 ^ 64) (negative : Bool) :
    Literal.toBinary64 ⟨negative, n, 0⟩ = .ofNat negative n := by
  cases Nat.eq_zero_or_pos n with
  | inl hzero =>
      rw [hzero]
      cases negative <;> decide +kernel
  | inr hpos =>
      have hsize := size_le_of_lt h
      rw [Literal.toBinary64_eq_ofRatio hpos (by omega) (by omega)]
      exact congrArg (fun num => Binary64.ofRatio negative num 1) (Nat.mul_one n)

theorem read_integer {n : Nat} (h : n < 2 ^ 64) {negative : Bool} {sign : List Char}
    (hsign : SignWritten negative sign) :
    Decimal.read (sign ++ Nat.toDigits 10 n) = some (.ofNat negative n) := by
  have hread := read_written hsign (numeral_toDigits n) .none .none
  rw [List.append_nil, List.append_nil, digitsValue_toDigits] at hread
  rw [hread]
  exact congrArg some (toBinary64_integer h negative)

/-- A printed number stands for the same double-precision number. -/
theorem Number.Sound.read_write {n : Number} (h : n.Sound) :
    Decimal.read n.write = some n.toBinary64 := by
  cases h with
  | integer hkept =>
      cases hkept with
      | natural hlt => exact read_integer hlt .none
      | negative _ hle => exact read_integer (Nat.lt_of_le_of_lt hle (by decide)) .minus
  | double hcanonical => exact Decimal.read_write Layout.compact hcanonical

theorem Number.solid_write (n : Number) : Solid n.write := by
  cases n with
  | natural n => exact solid_toDigits n
  | negative n => exact (solid_toDigits n).cons rfl
  | double d => exact Decimal.solid_write Layout.compact d

/-!
## Values of texts
-/

inductive Sound : Json -> Prop
  | null : Sound null
  | bool {b : Bool} : Sound (bool b)
  | number {n : Number} (h : n.Sound) : Sound (number n)
  | string {s : String} : Sound (string s)
  | array {items : List Json} (h : forall item, item ∈ items -> Sound item) : Sound (array items)
  | object {members : List (String × Json)}
      (h : forall member, member ∈ members -> Sound member.2) : Sound (object members)

mutual

theorem sound_of_ofForm : forall (form : Form) {depth : Nat} {j : Json},
    ofForm depth form = .ok j -> Sound j
  | .null, _, _, h => by
      cases h
      exact .null
  | .bool b, _, _, h => by
      cases h
      exact .bool
  | .number t, _, _, h => by
      rw [ofForm] at h
      split at h
      · rename_i hvalue
        cases h
        exact .number (sound_of_value? hvalue)
      · cases h
  | .string units, _, _, h => by
      rw [ofForm] at h
      split at h
      · cases h
        exact .string
      · cases h
  | .array forms, _, _, h => by
      rw [ofForm] at h
      split at h
      · cases h
      · rcases exists_of_bind_eq_ok h with ⟨items, hitems, hend⟩
        cases hend
        exact .array (sound_of_ofForms forms hitems)
  | .object forms, _, _, h => by
      rw [ofForm] at h
      split at h
      · cases h
      · rcases exists_of_bind_eq_ok h with ⟨members, hmembers, hend⟩
        cases hend
        have hsound := sound_of_ofMembers forms hmembers
        exact .object fun member hmember => hsound member (Text.Keyed.mem_of_mem_ofPairs hmember)

theorem sound_of_ofForms : forall (forms : List Form) {depth : Nat} {items : List Json},
    ofForms depth forms = .ok items -> forall item, item ∈ items -> Sound item
  | [], _, _, h => by
      cases h
      exact nofun
  | form :: forms, _, _, h => by
      rw [ofForms] at h
      rcases exists_of_bind_eq_ok h with ⟨item, hitem, hmore⟩
      rcases exists_of_bind_eq_ok hmore with ⟨items, hitems, hend⟩
      cases hend
      exact List.forall_mem_cons.mpr ⟨sound_of_ofForm form hitem, sound_of_ofForms forms hitems⟩

theorem sound_of_ofMembers : forall (forms : List (List StringUnit × Form)) {depth : Nat}
    {members : List (String × Json)}, ofMembers depth forms = .ok members ->
      forall member, member ∈ members -> Sound member.2
  | [], _, _, h => by
      cases h
      exact nofun
  | (key, form) :: forms, _, _, h => by
      rw [ofMembers] at h
      split at h
      · rcases exists_of_bind_eq_ok h with ⟨name, _hname, hvalued⟩
        rcases exists_of_bind_eq_ok hvalued with ⟨value, hvalue, hmore⟩
        rcases exists_of_bind_eq_ok hmore with ⟨members, hmembers, hend⟩
        cases hend
        exact List.forall_mem_cons.mpr
          ⟨sound_of_ofForm form hvalue, sound_of_ofMembers forms hmembers⟩
      · cases h

end

theorem sound_of_read {text : String} {j : Json} (h : read text = .ok j) : Sound j := by
  rcases exists_of_bind_eq_ok h with ⟨form, _hform, hvalue⟩
  exact sound_of_ofForm form hvalue

theorem Sound.of_member? {j value : Json} {key : String} (h : Sound j)
    (hvalue : j.member? key = some value) : Sound value := by
  cases h with
  | object hmembers => exact hmembers (key, value) (Text.Keyed.mem_of_find? hvalue)
  | _ => cases hvalue

end Json
end AnalysisHarness
