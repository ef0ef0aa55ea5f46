import AnalysisHarness.Text.Keyed
import Mathlib.Data.List.Forall2
import Mathlib.Data.List.Induction
import Mathlib.Data.List.Sort

/-!
# Entries made of pairs

Pairs are put into a list of entries one after another, so that the last pair with a key counts.
Where no two pairs share a key, all of them are kept and it does not matter how they are ordered.
-/

namespace AnalysisHarness
namespace Text

/-!
## Last elements
-/

/-- The last element of a list that has a property. -/
inductive Last {α : Type} (P : α -> Prop) (xs : List α) (x : α) : Prop
  | mk {before after : List α} (split : xs = before ++ x :: after) (h : P x)
      (hafter : forall later, later ∈ after -> ¬P later)

namespace Last

variable {α β : Type} {P : α -> Prop} {Q : β -> Prop} {xs : List α} {x : α}

theorem holds (h : Last P xs x) : P x := by
  cases h with
  | mk _ hx _ => exact hx

theorem mem (h : Last P xs x) : x ∈ xs := by
  cases h with
  | mk hsplit _ _ =>
      rw [hsplit]
      exact List.mem_append_right _ List.mem_cons_self

theorem cons (h : Last P xs x) (y : α) : Last P (y :: xs) x := by
  rcases h with ⟨hsplit, hx, hafter⟩
  rename_i before after
  have hlonger : y :: xs = (y :: before) ++ x :: after := by rw [hsplit, List.cons_append]
  exact .mk hlonger hx hafter

theorem of_mem (hmem : x ∈ xs) (h : P x) : exists last, Last P xs last := by
  induction xs using List.reverseRecOn with
  | nil => cases hmem
  | append_singleton xs last ih =>
      by_cases hlast : P last
      · exact ⟨last, .mk rfl hlast (List.forall_mem_nil _)⟩
      · rcases List.mem_append.mp hmem with hmem | hmem
        · rcases ih hmem with ⟨earlier, ⟨hsplit, hearlier, hafter⟩⟩
          rename_i before after
          have hlonger : xs ++ [last] = before ++ earlier :: (after ++ [last]) := by
            rw [hsplit, List.append_assoc, List.cons_append]
          refine ⟨earlier, .mk hlonger hearlier ?_⟩
          intro later hlater
          rcases List.mem_append.mp hlater with hlater | hlater
          · exact hafter later hlater
          · rw [List.mem_singleton.mp hlater]
            exact hlast
        · rw [List.mem_singleton.mp hmem] at h
          exact absurd h hlast

theorem transport {R : α -> β -> Prop} {ys : List β} (h : List.Forall₂ R xs ys)
    (hiff : forall {x y}, R x y -> (P x <-> Q y)) (hlast : Last P xs x) :
    exists y, Last Q ys y ∧ R x y := by
  rcases hlast with ⟨hsplit, hx, hafter⟩
  rename_i before after
  subst hsplit
  induction before generalizing ys with
  | nil =>
      rcases List.forall₂_cons_left_iff.mp h with ⟨y, later, hy, hlater, rfl⟩
      refine ⟨y, .mk (List.nil_append _).symm ((hiff hy).mp hx) ?_, hy⟩
      clear h hx hy
      induction hlater with
      | nil => exact List.forall_mem_nil _
      | cons hhead _htail ih =>
          rcases List.forall_mem_cons.mp hafter with ⟨hfirst, hmore⟩
          exact List.forall_mem_cons.mpr ⟨mt (hiff hhead).mpr hfirst, ih hmore⟩
  | cons earlier before ih =>
      rcases List.forall₂_cons_left_iff.mp h with ⟨y', more, _hy', hmore, rfl⟩
      rcases ih hmore with ⟨y, hlast, hxy⟩
      exact ⟨y, hlast.cons y', hxy⟩

end Last

theorem getLast?_filterMap_eq_some_iff {α β : Type} {f : α -> Option β} {xs : List α} {b : β} :
    (xs.filterMap f).getLast? = some b <->
      exists a, Last (fun x => f x ≠ none) xs a ∧ f a = some b := by
  rw [List.getLast?_eq_some_iff]
  constructor
  · rintro ⟨values, hvalues⟩
    rcases List.filterMap_eq_append_iff.mp hvalues with ⟨first, rest, rfl, _hfirst, hrest⟩
    rcases List.filterMap_eq_cons_iff.mp hrest with ⟨skipped, a, after, rfl, _hskipped, ha, hafter⟩
    have hsplit := (List.append_assoc first skipped (a :: after)).symm
    refine ⟨a, .mk hsplit (Option.ne_none_iff_exists'.mpr ⟨b, ha⟩) ?_, ha⟩
    intro later hlater hsome
    exact hsome (List.filterMap_eq_nil_iff.mp hafter later hlater)
  · rintro ⟨a, ⟨rfl, _hsome, hafter⟩, ha⟩
    rename_i before after
    have hnone : after.filterMap f = [] := by
      apply List.filterMap_eq_nil_iff.mpr
      intro later hlater
      exact not_not.mp (hafter later hlater)
    exists before.filterMap f
    rw [List.filterMap_append, List.filterMap_cons_some ha, hnone]

namespace Keyed

variable {α : Type} {key : String} {value : α} {entries : Keyed α} {pairs : List (String × α)}

theorem find?_eq_none_of_not_mem_keys (h : key ∉ entries.keys) : entries.find? key = none := by
  cases hfind : entries.find? key with
  | none => rfl
  | some value =>
      have hmem : key ∈ entries.keys := List.mem_map.mpr ⟨_, mem_of_find? hfind, rfl⟩
      exact absurd hmem h

theorem ofPairs_concat (pairs : List (String × α)) (pair : String × α) :
    ofPairs (pairs ++ [pair]) = put pair.1 pair.2 (ofPairs pairs) := by
  unfold ofPairs
  rw [List.foldl_append]
  rfl

theorem ordered_ofPairs (pairs : List (String × α)) : Ordered (ofPairs pairs) := by
  induction pairs using List.reverseRecOn with
  | nil => exact List.Pairwise.nil
  | append_singleton pairs pair ih =>
      rw [ofPairs_concat]
      exact ordered_put pair.1 pair.2 ih

theorem put_ne_nil (key : String) (value : α) (entries : Keyed α) : put key value entries ≠ [] := by
  cases entries with
  | nil => exact List.cons_ne_nil _ _
  | cons first rest =>
      unfold put
      split
      · exact List.cons_ne_nil _ _
      · split <;> exact List.cons_ne_nil _ _

theorem ofPairs_eq_nil_iff : ofPairs pairs = [] <-> pairs = [] := by
  constructor
  · intro h
    induction pairs using List.reverseRecOn with
    | nil => rfl
    | append_singleton pairs pair _ih =>
        rw [ofPairs_concat] at h
        exact absurd h (put_ne_nil _ _ _)
  · rintro rfl
    rfl

theorem mem_of_mem_ofPairs {pair : String × α} (h : pair ∈ ofPairs pairs) : pair ∈ pairs := by
  induction pairs using List.reverseRecOn with
  | nil => cases h
  | append_singleton pairs last ih =>
      rw [ofPairs_concat] at h
      rcases mem_put h with rfl | hmem
      · exact List.mem_append_right pairs List.mem_cons_self
      · exact List.mem_append_left [last] (ih hmem)

theorem filter_put (key : String) (value : α) (entries : Keyed α) :
    (put key value entries).filter (fun entry => entry.1 ≠ key) =
      entries.filter fun entry => entry.1 ≠ key := by
  induction entries with
  | nil => simp [put]
  | cons first rest ih =>
      rcases first with ⟨k, v⟩
      unfold put
      split
      · rename_i hkey
        simp [hkey]
      · split
        · simp
        · rw [List.filter_cons, List.filter_cons, ih]

theorem find?_ofPairs (pairs : List (String × α)) (key : String) :
    (ofPairs pairs).find? key =
      (pairs.filterMap fun pair => if pair.1 = key then some pair.2 else none).getLast? := by
  induction pairs using List.reverseRecOn with
  | nil => rfl
  | append_singleton pairs pair ih =>
      rw [ofPairs_concat, find?_put, ih, List.filterMap_append]
      by_cases hkey : key = pair.1
      · rw [if_pos hkey]
        simp [hkey]
      · rw [if_neg hkey]
        simp [Ne.symm hkey]

theorem find?_ofPairs_eq_some_iff : (ofPairs pairs).find? key = some value <->
    Last (fun pair => pair.1 = key) pairs (key, value) := by
  have hmade : (fun pair : String × α => (if pair.1 = key then some pair.2 else none) ≠ none) =
      fun pair => pair.1 = key := by
    funext pair
    by_cases hkey : pair.1 = key
    · simp [hkey]
    · simp [hkey]
  rw [find?_ofPairs, getLast?_filterMap_eq_some_iff, hmade]
  constructor
  · rintro ⟨⟨name, last⟩, hlast, hvalue⟩
    cases hlast.holds
    rw [if_pos rfl] at hvalue
    cases hvalue
    exact hlast
  · intro hlast
    exact ⟨(key, value), hlast, if_pos rfl⟩

theorem perm_put (h : key ∉ entries.keys) (value : α) :
    (put key value entries).Perm ((key, value) :: entries) := by
  induction entries with
  | nil => exact List.Perm.refl _
  | cons first rest ih =>
      rcases first with ⟨k, v⟩
      rcases not_or.mp (fun hmem => h (List.mem_cons.mpr hmem)) with ⟨hne, hrest⟩
      unfold put
      rw [if_neg hne]
      split
      · exact List.Perm.refl _
      · exact ((ih hrest).cons (k, v)).trans (List.Perm.swap _ _ _)

theorem perm_ofPairs (h : (pairs.map Prod.fst).Nodup) : (ofPairs pairs).Perm pairs := by
  induction pairs using List.reverseRecOn with
  | nil => exact List.Perm.refl _
  | append_singleton pairs pair ih =>
      rw [List.map_append, List.nodup_append] at h
      rcases h with ⟨hpairs, _hone, hdisjoint⟩
      have hkept := ih hpairs
      have hnew : pair.1 ∉ (ofPairs pairs).keys := by
        intro hmem
        have hold : pair.1 ∈ pairs.map Prod.fst := (hkept.map Prod.fst).mem_iff.mp hmem
        exact hdisjoint pair.1 hold pair.1 List.mem_cons_self rfl
      rw [ofPairs_concat]
      exact (perm_put hnew pair.2).trans
        ((hkept.cons pair).trans (List.perm_append_singleton pair pairs).symm)

theorem keys_ofPairs_congr {β : Type} {others : List (String × β)}
    (h : pairs.map Prod.fst = others.map Prod.fst) (hkeys : (pairs.map Prod.fst).Nodup) :
    (ofPairs pairs).keys = (ofPairs others).keys := by
  have hpairs := (perm_ofPairs hkeys).map Prod.fst
  have hothers := (perm_ofPairs (h ▸ hkeys)).map Prod.fst
  rw [← h] at hothers
  apply (hpairs.trans hothers.symm).eq_of_pairwise _
    (List.pairwise_map.mpr (ordered_ofPairs pairs)) (List.pairwise_map.mpr (ordered_ofPairs others))
  intro a b _ha _hb hlt hgt
  exact absurd (String.lt_trans hlt hgt) (String.lt_irrefl a)

theorem eq_of_perm_of_ordered {other : Keyed α} (hperm : entries.Perm other) (h : Ordered entries)
    (h' : Ordered other) : entries = other := by
  apply hperm.eq_of_pairwise _ h h'
  intro a b _ha _hb hlt hgt
  exact absurd (String.lt_trans hlt hgt) (String.lt_irrefl a.1)

/-- Entries are determined by the pairs they are made of, in whatever order these come. -/
theorem ofPairs_eq_of_perm {pairs' : List (String × α)} (hperm : pairs.Perm pairs')
    (h : (pairs.map Prod.fst).Nodup) : ofPairs pairs = ofPairs pairs' := by
  have h' : (pairs'.map Prod.fst).Nodup := (hperm.map Prod.fst).nodup_iff.mp h
  have hentries : (ofPairs pairs).Perm (ofPairs pairs') :=
    (perm_ofPairs h).trans (hperm.trans (perm_ofPairs h').symm)
  exact eq_of_perm_of_ordered hentries (ordered_ofPairs pairs) (ordered_ofPairs pairs')

theorem nodup_keys_of_ordered (h : Ordered entries) : entries.keys.Nodup := by
  apply List.pairwise_map.mpr
  apply List.Pairwise.imp _ h
  intro a b hlt heq
  rw [heq] at hlt
  exact String.lt_irrefl b.1 hlt

theorem mem_iff_find? (h : Ordered entries) :
    (key, value) ∈ entries <-> entries.find? key = some value :=
  ⟨find?_of_mem (nodup_keys_of_ordered h), mem_of_find?⟩

theorem eq_of_mem_iff {other : Keyed α} (h : Ordered entries) (h' : Ordered other)
    (hmem : forall entry, entry ∈ entries <-> entry ∈ other) : entries = other := by
  have hperm : entries.Perm other :=
    (List.perm_ext_iff_of_nodup (nodup_keys_of_ordered h).of_map
      (nodup_keys_of_ordered h').of_map).mpr hmem
  exact eq_of_perm_of_ordered hperm h h'

theorem eq_of_find?_eq {other : Keyed α} (h : Ordered entries) (h' : Ordered other)
    (hfind : forall key, entries.find? key = other.find? key) : entries = other := by
  apply eq_of_mem_iff h h'
  rintro ⟨key, value⟩
  rw [mem_iff_find? h, mem_iff_find? h', hfind]

end Keyed
end Text
end AnalysisHarness
