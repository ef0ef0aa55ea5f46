import Mathlib.Data.List.Forall2

/-!
# Computations that can fail

What a sequence of two computations came to tells what each of them came to, and so does what came
of the same computation for each element of a list.
-/

namespace AnalysisHarness

universe u v

variable {ε : Type u} {α β : Type v}

theorem exists_of_bind_eq_ok {x : Except ε α} {f : α -> Except ε β} {b : β}
    (h : (x >>= f) = .ok b) : exists a, x = .ok a ∧ f a = .ok b := by
  cases x with
  | error e => cases h
  | ok a => exact ⟨a, rfl, h⟩

theorem bind_eq_ok {x : Except ε α} {f : α -> Except ε β} {a : α} {b : β} (hx : x = .ok a)
    (hf : f a = .ok b) : (x >>= f) = .ok b := by
  rw [hx]
  exact hf

theorem exists_of_map_eq_ok {x : Except ε α} {f : α -> β} {b : β}
    (h : x.map f = .ok b) : exists a, x = .ok a ∧ f a = b := by
  cases x with
  | error e => cases h
  | ok a => exact ⟨a, rfl, Except.ok.inj h⟩

theorem mapError_eq_ok_iff {ε' : Type u} {x : Except ε α} {f : ε -> ε'} {a : α} :
    x.mapError f = .ok a <-> x = .ok a := by
  cases x with
  | error e => exact ⟨nofun, nofun⟩
  | ok b => exact Iff.of_eq (by simp only [Except.mapError, Except.ok.injEq])

theorem toOption_eq_some_iff {x : Except ε α} {a : α} : x.toOption = some a <-> x = .ok a := by
  cases x with
  | error e => exact ⟨nofun, nofun⟩
  | ok b => exact Iff.of_eq (by simp only [Except.toOption, Option.some.injEq, Except.ok.injEq])

section Lists

theorem exists_mem_of_forall₂_left {α β : Type} {R : α -> β -> Prop} {as : List α} {bs : List β}
    (h : List.Forall₂ R as bs) {a : α} (ha : a ∈ as) : exists b, b ∈ bs ∧ R a b := by
  induction h with
  | nil => cases ha
  | cons hab _h ih =>
      cases List.mem_cons.mp ha with
      | inl heq =>
          rw [heq]
          exact ⟨_, List.mem_cons_self, hab⟩
      | inr hmem =>
          rcases ih hmem with ⟨b, hb, hab⟩
          exact ⟨b, List.mem_cons_of_mem _ hb, hab⟩

theorem exists_mem_of_forall₂_right {α β : Type} {R : α -> β -> Prop} {as : List α} {bs : List β}
    (h : List.Forall₂ R as bs) {b : β} (hb : b ∈ bs) : exists a, a ∈ as ∧ R a b :=
  exists_mem_of_forall₂_left h.flip hb

variable {ε α β : Type} {f : α -> Except ε β} {xs : List α}

theorem mapM_eq_ok_iff {ys : List β} :
    xs.mapM f = .ok ys <-> List.Forall₂ (fun x y => f x = .ok y) xs ys := by
  induction xs generalizing ys with
  | nil =>
      rw [List.mapM_nil, List.forall₂_nil_left_iff]
      exact ⟨fun h => (Except.ok.inj h).symm, fun h => congrArg Except.ok h.symm⟩
  | cons x xs ih =>
      rw [List.mapM_cons, List.forall₂_cons_left_iff]
      constructor
      · intro h
        rcases exists_of_bind_eq_ok h with ⟨y, hy, h⟩
        rcases exists_of_bind_eq_ok h with ⟨more, hmore, h⟩
        exact ⟨y, more, hy, ih.mp hmore, (Except.ok.inj h).symm⟩
      · rintro ⟨y, more, hy, hmore, rfl⟩
        exact bind_eq_ok hy (bind_eq_ok (ih.mpr hmore) rfl)

theorem exists_of_mapM_eq_error {e : ε} (h : xs.mapM f = .error e) :
    exists x, x ∈ xs ∧ f x = .error e := by
  induction xs with
  | nil => cases h
  | cons x xs ih =>
      rw [List.mapM_cons] at h
      cases hx : f x with
      | error e' =>
          rw [hx] at h
          cases h
          exact ⟨x, List.mem_cons_self, hx⟩
      | ok y =>
          rw [hx] at h
          cases hmore : xs.mapM f with
          | error e' =>
              change (xs.mapM f >>= fun ys => pure (y :: ys)) = .error e at h
              rw [hmore] at h
              cases h
              rcases ih hmore with ⟨x', hmem, hx'⟩
              exact ⟨x', List.mem_cons_of_mem x hmem, hx'⟩
          | ok ys =>
              change (xs.mapM f >>= fun ys => pure (y :: ys)) = .error e at h
              rw [hmore] at h
              cases h

end Lists

end AnalysisHarness
