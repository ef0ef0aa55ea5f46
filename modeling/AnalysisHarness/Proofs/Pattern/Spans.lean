import AnalysisHarness.Pattern.Matching

/-!
# What expressions match

An expression matches stretches of a text. This module says which ones, constructor by
constructor, and proves that the search by states finds exactly the texts in which some stretch is
matched: matching the empty stretch and what is left after one character agree with the meaning,
and the rest is an induction along the text.
-/

namespace AnalysisHarness
namespace Pattern

structure Position where
  before : Option Char
  rest : List Char

def Copies (r : Position -> Position -> Prop) : Nat -> Position -> Position -> Prop
  | 0, p, q => p = q
  | n + 1, p, q => exists m, r p m ∧ Copies r n m q

namespace Node

/-- The stretches, from one position to another one, that an expression matches. -/
def Spans : Node -> Position -> Position -> Prop
  | empty, p, q => p = q
  | one cls, p, q =>
      exists c rest, p.rest = c :: rest ∧ cls.has c.toNat = true ∧ q = ⟨some c, rest⟩
  | look a, p, q => p = q ∧ a.holds p.before p.rest.head? = true
  | seq a b, p, q => exists m, Spans a p m ∧ Spans b m q
  | alt a b, p, q => Spans a p q ∨ Spans b p q
  | rep a min max, p, q =>
      exists n, min ≤ n ∧ (forall m, max = some m -> n ≤ m) ∧ Copies (Spans a) n p q

def Proper : Node -> Prop
  | empty => True
  | one _ => True
  | look _ => True
  | seq a b => Proper a ∧ Proper b
  | alt a b => Proper a ∧ Proper b
  | rep a min max => Proper a ∧ forall m, max = some m -> min ≤ m

end Node

/-!
## Stretches go forward

A stretch either is empty or ends where less of the text is left.
-/

def Forward (r : Position -> Position -> Prop) : Prop :=
  forall p q, r p q -> p = q ∨ q.rest.length < p.rest.length

theorem forward_copies {r : Position -> Position -> Prop} (hr : Forward r) (n : Nat) :
    Forward (Copies r n) := by
  induction n with
  | zero =>
      intro p q h
      exact Or.inl h
  | succ n ih =>
      intro p q h
      rcases h with ⟨m, hpm, hmq⟩
      rcases hr p m hpm with rfl | hm
      · exact ih p q hmq
      · rcases ih m q hmq with rfl | hq
        · exact Or.inr hm
        · exact Or.inr (Nat.lt_trans hq hm)

theorem forward_spans (n : Node) : Forward n.Spans := by
  induction n with
  | empty =>
      intro p q h
      exact Or.inl h
  | one cls =>
      intro p q h
      rcases h with ⟨c, rest, hrest, _hc, rfl⟩
      rw [hrest]
      exact Or.inr (Nat.lt_succ_self rest.length)
  | look a =>
      intro p q h
      exact Or.inl h.1
  | seq a b iha ihb =>
      intro p q h
      rcases h with ⟨m, hpm, hmq⟩
      rcases iha p m hpm with rfl | hm
      · exact ihb p q hmq
      · rcases ihb m q hmq with rfl | hq
        · exact Or.inr hm
        · exact Or.inr (Nat.lt_trans hq hm)
  | alt a b iha ihb =>
      intro p q h
      cases h with
      | inl ha => exact iha p q ha
      | inr hb => exact ihb p q hb
  | rep a min max iha =>
      intro p q h
      rcases h with ⟨n, _hmin, _hmax, hcopies⟩
      exact forward_copies iha n p q hcopies

theorem eq_of_forward_back {r t : Position -> Position -> Prop} (hr : Forward r) (ht : Forward t)
    {p m : Position} (hpm : r p m) (hmp : t m p) : m = p := by
  rcases hr p m hpm with heq | hm
  · exact heq.symm
  · rcases ht m p hmp with heq | hp
    · exact heq
    · exact absurd (Nat.lt_trans hm hp) (Nat.lt_irrefl _)

theorem copies_self {r : Position -> Position -> Prop} {p : Position} (h : r p p) (n : Nat) :
    Copies r n p p := by
  induction n with
  | zero => rfl
  | succ n ih => exact ⟨p, h, ih⟩

theorem copies_after_self {r : Position -> Position -> Prop} {p q : Position} {k : Nat}
    (h : r p p) (hcopies : Copies r k p q) (n : Nat) : Copies r (n + k) p q := by
  induction n with
  | zero =>
      rw [Nat.zero_add]
      exact hcopies
  | succ n ih =>
      rw [Nat.succ_add]
      exact ⟨p, h, ih⟩

/-- Copies that get somewhere have a first one that does; those before it match nothing. -/
theorem exists_first_move {r : Position -> Position -> Prop} (hr : Forward r) {n : Nat}
    {p q : Position} (h : Copies r n p q) (hq : q.rest.length < p.rest.length) :
    exists m k, r p m ∧ m.rest.length < p.rest.length ∧ Copies r k m q ∧ k + 1 ≤ n ∧
      (k + 1 = n ∨ r p p) := by
  induction n with
  | zero =>
      cases h
      exact absurd hq (Nat.lt_irrefl _)
  | succ n ih =>
      rcases h with ⟨m, hpm, hmq⟩
      rcases hr p m hpm with rfl | hm
      · rcases ih hmq with ⟨m, k, hfirst, hmove, hrest, hle, _hlast⟩
        exact ⟨m, k, hfirst, hmove, hrest, Nat.le_succ_of_le hle, Or.inr hpm⟩
      · exact ⟨m, n, hpm, hm, hmq, Nat.le_refl (n + 1), Or.inl rfl⟩

namespace Node

/-!
## The empty stretch
-/

theorem nullable_iff_spans {n : Node} (hproper : n.Proper) (p : Position) :
    n.nullable p.before p.rest.head? = true <-> n.Spans p p := by
  induction n with
  | empty => exact ⟨fun _ => rfl, fun _ => rfl⟩
  | one cls =>
      constructor
      · intro h
        cases h
      · intro h
        rcases h with ⟨c, rest, hrest, _hc, hp⟩
        rw [hp] at hrest
        exact absurd (congrArg List.length hrest) (by simp)
  | look a => exact ⟨fun h => ⟨rfl, h⟩, fun h => h.2⟩
  | seq a b iha ihb =>
      simp only [nullable, Bool.and_eq_true]
      rw [iha hproper.1, ihb hproper.2]
      constructor
      · intro h
        exact ⟨p, h.1, h.2⟩
      · intro h
        rcases h with ⟨m, hpm, hmp⟩
        cases eq_of_forward_back (forward_spans a) (forward_spans b) hpm hmp
        exact ⟨hpm, hmp⟩
  | alt a b iha ihb =>
      simp only [nullable, Bool.or_eq_true]
      rw [iha hproper.1, ihb hproper.2]
      rfl
  | rep a min max iha =>
      simp only [nullable, Bool.or_eq_true, beq_iff_eq]
      rw [iha hproper.1]
      constructor
      · intro h
        cases h with
        | inl hmin =>
            refine ⟨0, Nat.le_of_eq hmin, ?_, rfl⟩
            intro m _hm
            exact Nat.zero_le m
        | inr hself => exact ⟨min, Nat.le_refl min, hproper.2, copies_self hself min⟩
      · intro h
        rcases h with ⟨n, hmin, _hmax, hcopies⟩
        cases n with
        | zero => exact Or.inl (Nat.le_zero.mp hmin)
        | succ n =>
            rcases hcopies with ⟨m, hpm, hmp⟩
            cases eq_of_forward_back (forward_spans a) (forward_copies (forward_spans a) n)
              hpm hmp
            exact Or.inr hpm

/-!
## What is left after one character
-/

theorem spans_andThen (a b : Node) (p q : Position) :
    (a.andThen b).Spans p q <-> exists m, a.Spans p m ∧ b.Spans m q := by
  cases a with
  | empty =>
      constructor
      · intro h
        exact ⟨p, rfl, h⟩
      · intro h
        rcases h with ⟨m, rfl, hmq⟩
        exact hmq
  | _ => rfl

theorem proper_andThen {a b : Node} (ha : a.Proper) (hb : b.Proper) : (a.andThen b).Proper := by
  cases a with
  | empty => exact hb
  | _ => exact ⟨ha, hb⟩

theorem proper_of_mem_after {n m : Node} {before : Option Char} {c : Char}
    (hproper : n.Proper) (h : m ∈ n.after before c) : m.Proper := by
  induction n generalizing m with
  | empty => cases h
  | one cls =>
      simp only [after] at h
      split at h
      · rw [List.mem_singleton.mp h]
        trivial
      · cases h
  | look a => cases h
  | seq a b iha ihb =>
      rcases List.mem_append.mp h with hfirst | hsecond
      · rcases List.mem_map.mp hfirst with ⟨left, hleft, rfl⟩
        exact proper_andThen (iha hproper.1 hleft) hproper.2
      · split at hsecond
        · exact ihb hproper.2 hsecond
        · cases hsecond
  | alt a b iha ihb =>
      rcases List.mem_append.mp h with hleft | hright
      · exact iha hproper.1 hleft
      · exact ihb hproper.2 hright
  | rep a min max iha =>
      simp only [after] at h
      split at h
      · cases h
      · rcases List.mem_map.mp h with ⟨left, hleft, rfl⟩
        refine proper_andThen (iha hproper.1 hleft) ⟨hproper.1, ?_⟩
        intro bound hbound
        rcases Option.map_eq_some_iff.mp hbound with ⟨m, hm, rfl⟩
        have hle := hproper.2 m hm
        split
        · exact Nat.zero_le (m - 1)
        · exact Nat.sub_le_sub_right hle 1

/--
What may follow a character is what is left of the stretches that begin with it. A repetition whose
body matches the empty text needs no further copies: empty ones can always be put in front.
-/
theorem exists_mem_after_iff {n : Node} (hproper : n.Proper) (before : Option Char) (c : Char)
    (rest : List Char) (q : Position) :
    (exists m, m ∈ n.after before c ∧ m.Spans ⟨some c, rest⟩ q) <->
      n.Spans ⟨before, c :: rest⟩ q ∧ q.rest.length ≤ rest.length := by
  induction n generalizing q with
  | empty =>
      constructor
      · intro h
        rcases h with ⟨m, hm, _hspans⟩
        cases hm
      · intro h
        rcases h with ⟨rfl, hle⟩
        exact absurd hle (Nat.not_succ_le_self rest.length)
  | one cls =>
      simp only [after]
      constructor
      · intro h
        rcases h with ⟨m, hm, hspans⟩
        split at hm
        · rename_i hc
          rw [List.mem_singleton.mp hm] at hspans
          cases hspans
          exact ⟨⟨c, rest, rfl, hc, rfl⟩, Nat.le_refl rest.length⟩
        · cases hm
      · intro h
        rcases h with ⟨⟨d, tail, heq, hd, rfl⟩, _hle⟩
        cases heq
        rw [if_pos hd]
        exact ⟨empty, List.mem_singleton.mpr rfl, rfl⟩
  | look a =>
      constructor
      · intro h
        rcases h with ⟨m, hm, _hspans⟩
        cases hm
      · intro h
        rcases h with ⟨⟨rfl, _hholds⟩, hle⟩
        exact absurd hle (Nat.not_succ_le_self rest.length)
  | seq a b iha ihb =>
      constructor
      · intro h
        rcases h with ⟨m, hm, hspans⟩
        rcases List.mem_append.mp hm with hfirst | hsecond
        · rcases List.mem_map.mp hfirst with ⟨left, hleft, rfl⟩
          rcases (spans_andThen left b _ q).mp hspans with ⟨mid, hmid, hmq⟩
          rcases (iha hproper.1 mid).mp ⟨left, hleft, hmid⟩ with ⟨ha, hle⟩
          refine ⟨⟨mid, ha, hmq⟩, ?_⟩
          rcases forward_spans b mid q hmq with rfl | hlt
          · exact hle
          · exact Nat.le_trans (Nat.le_of_lt hlt) hle
        · split at hsecond
          · rename_i hnull
            rcases (ihb hproper.2 q).mp ⟨m, hsecond, hspans⟩ with ⟨hb, hle⟩
            have ha := (nullable_iff_spans hproper.1 ⟨before, c :: rest⟩).mp hnull
            exact ⟨⟨_, ha, hb⟩, hle⟩
          · cases hsecond
      · intro h
        rcases h with ⟨⟨mid, ha, hb⟩, hle⟩
        rcases forward_spans a _ mid ha with rfl | hlt
        · have hnull : a.nullable before (some c) = true :=
            (nullable_iff_spans hproper.1 ⟨before, c :: rest⟩).mpr ha
          rcases (ihb hproper.2 q).mpr ⟨hb, hle⟩ with ⟨m, hm, hspans⟩
          refine ⟨m, List.mem_append_right _ ?_, hspans⟩
          rw [if_pos hnull]
          exact hm
        · rcases (iha hproper.1 mid).mpr ⟨ha, Nat.le_of_lt_succ hlt⟩ with ⟨left, hleft, hspans⟩
          refine ⟨left.andThen b, List.mem_append_left _ ?_, ?_⟩
          · exact List.mem_map.mpr ⟨left, hleft, rfl⟩
          · exact (spans_andThen left b _ q).mpr ⟨mid, hspans, hb⟩
  | alt a b iha ihb =>
      simp only [after, List.mem_append, Spans]
      constructor
      · intro h
        rcases h with ⟨m, hm, hspans⟩
        cases hm with
        | inl hleft =>
            rcases (iha hproper.1 q).mp ⟨m, hleft, hspans⟩ with ⟨ha, hle⟩
            exact ⟨Or.inl ha, hle⟩
        | inr hright =>
            rcases (ihb hproper.2 q).mp ⟨m, hright, hspans⟩ with ⟨hb, hle⟩
            exact ⟨Or.inr hb, hle⟩
      · intro h
        rcases h with ⟨hspans, hle⟩
        cases hspans with
        | inl ha =>
            rcases (iha hproper.1 q).mpr ⟨ha, hle⟩ with ⟨m, hm, hspans⟩
            exact ⟨m, Or.inl hm, hspans⟩
        | inr hb =>
            rcases (ihb hproper.2 q).mpr ⟨hb, hle⟩ with ⟨m, hm, hspans⟩
            exact ⟨m, Or.inr hm, hspans⟩
  | rep a min max iha =>
      have hself := nullable_iff_spans hproper.1 ⟨before, c :: rest⟩
      simp only [after]
      constructor
      · intro h
        rcases h with ⟨m, hm, hspans⟩
        split at hm
        · cases hm
        · rename_i hzero
          rcases List.mem_map.mp hm with ⟨left, hleft, rfl⟩
          rcases (spans_andThen left _ _ q).mp hspans with ⟨mid, hmid, hrest⟩
          rcases hrest with ⟨k, hneeded, hbound, hcopies⟩
          rcases (iha hproper.1 mid).mp ⟨left, hleft, hmid⟩ with ⟨ha, hle⟩
          have hmax : forall m, max = some m -> k + 1 ≤ m := by
            intro m hm
            have hk := hbound (m - 1) (by rw [hm]; rfl)
            have hm0 : m ≠ 0 := by
              intro h0
              rw [h0] at hm
              exact hzero hm
            omega
          have hshort : q.rest.length ≤ rest.length := by
            rcases forward_copies (forward_spans a) k mid q hcopies with rfl | hlt
            · exact hle
            · exact Nat.le_trans (Nat.le_of_lt hlt) hle
          have hone : Copies a.Spans (k + 1) ⟨before, c :: rest⟩ q := ⟨mid, ha, hcopies⟩
          refine ⟨?_, hshort⟩
          -- where the body matches nothing here, missing copies are put in front for free
          by_cases hnull : a.nullable before (some c) = true
          · refine ⟨(min - (k + 1)) + (k + 1), by omega, ?_,
              copies_after_self (hself.mp hnull) hone (min - (k + 1))⟩
            intro m hm
            have hle := hmax m hm
            have hmin := hproper.2 m hm
            omega
          · rw [if_neg hnull] at hneeded
            exact ⟨k + 1, by omega, hmax, hone⟩
      · intro h
        rcases h with ⟨⟨n, hmin, hmax, hcopies⟩, hle⟩
        rcases exists_first_move (forward_spans a) hcopies (Nat.lt_succ_of_le hle) with
          ⟨mid, k, ha, hmove, hrest, hk, hlast⟩
        have hzero : max ≠ some 0 := by
          intro h0
          have hn := hmax 0 h0
          omega
        rw [if_neg hzero]
        rcases (iha hproper.1 mid).mpr ⟨ha, Nat.le_of_lt_succ hmove⟩ with ⟨left, hleft, hspans⟩
        refine ⟨_, List.mem_map.mpr ⟨left, hleft, rfl⟩, ?_⟩
        refine (spans_andThen left _ _ q).mpr ⟨mid, hspans, k, ?_, ?_, hrest⟩
        · split
          · exact Nat.zero_le k
          · rename_i hnull
            cases hlast with
            | inl heq => omega
            | inr hempty => exact absurd (hself.mpr hempty) hnull
        · intro bound hbound
          rcases Option.map_eq_some_iff.mp hbound with ⟨m, hm, rfl⟩
          have hn := hmax m hm
          omega

/-- A stretch is empty or begins with a character. -/
theorem exists_spans_cons_iff {n : Node} (hproper : n.Proper) (before : Option Char) (c : Char)
    (rest : List Char) :
    (exists q, n.Spans ⟨before, c :: rest⟩ q) <->
      n.nullable before (some c) = true ∨
        exists m, m ∈ n.after before c ∧ exists q, m.Spans ⟨some c, rest⟩ q := by
  constructor
  · intro h
    rcases h with ⟨q, hq⟩
    rcases forward_spans n _ q hq with rfl | hlt
    · exact Or.inl ((nullable_iff_spans hproper ⟨before, c :: rest⟩).mpr hq)
    · rcases (exists_mem_after_iff hproper before c rest q).mpr ⟨hq, Nat.le_of_lt_succ hlt⟩ with
        ⟨m, hm, hspans⟩
      exact Or.inr ⟨m, hm, q, hspans⟩
  · intro h
    cases h with
    | inl hnull => exact ⟨_, (nullable_iff_spans hproper ⟨before, c :: rest⟩).mp hnull⟩
    | inr hafter =>
        rcases hafter with ⟨m, hm, q, hspans⟩
        exact ⟨q, ((exists_mem_after_iff hproper before c rest q).mp ⟨m, hm, hspans⟩).1⟩

theorem exists_spans_nil_iff {n : Node} (hproper : n.Proper) (before : Option Char) :
    (exists q, n.Spans ⟨before, []⟩ q) <-> n.nullable before none = true := by
  constructor
  · intro h
    rcases h with ⟨q, hq⟩
    rcases forward_spans n _ q hq with rfl | hlt
    · exact (nullable_iff_spans hproper ⟨before, []⟩).mpr hq
    · exact absurd hlt (Nat.not_lt_zero _)
  · intro h
    exact ⟨_, (nullable_iff_spans hproper ⟨before, []⟩).mp h⟩

end Node

/-!
## The search

The states at a position are the expressions that are left of the stretches begun before it. One
step of the search turns them into those at the next position.
-/

theorem mem_insertNew {n m : Node} {states : List Node} :
    m ∈ insertNew n states <-> m = n ∨ m ∈ states := by
  unfold insertNew
  split
  · rename_i hthere
    have hn : n ∈ states := by simpa using hthere
    constructor
    · intro h
      exact Or.inr h
    · intro h
      cases h with
      | inl heq =>
          rw [heq]
          exact hn
      | inr hm => exact hm
  · exact List.mem_cons

theorem proper_of_mem_insertNew {n m : Node} {states : List Node} (hn : n.Proper)
    (hstates : forall n, n ∈ states -> n.Proper) (h : m ∈ insertNew n states) : m.Proper := by
  cases mem_insertNew.mp h with
  | inl heq =>
      rw [heq]
      exact hn
  | inr hmem => exact hstates m hmem

theorem exists_state_insertNew_iff (start : Node) (states : List Node) (p : Position) :
    (exists n, n ∈ insertNew start states ∧ exists q, n.Spans p q) <->
      (exists n, n ∈ states ∧ exists q, n.Spans p q) ∨ exists q, start.Spans p q := by
  simp only [mem_insertNew]
  constructor
  · intro h
    rcases h with ⟨n, rfl | hn, hspans⟩
    · exact Or.inr hspans
    · exact Or.inl ⟨n, hn, hspans⟩
  · intro h
    rcases h with ⟨n, hn, hspans⟩ | hspans
    · exact ⟨n, Or.inr hn, hspans⟩
    · exact ⟨start, Or.inl rfl, hspans⟩

theorem mem_foldl_insertNew {m : Node} (ns states : List Node) :
    m ∈ ns.foldl (fun found n => insertNew n found) states <-> m ∈ ns ∨ m ∈ states := by
  induction ns generalizing states with
  | nil => simp
  | cons n ns ih =>
      rw [List.foldl_cons, ih, mem_insertNew, List.mem_cons, ← or_assoc]
      rw [@or_comm (m ∈ ns) (m = n)]

theorem mem_step {m : Node} {before : Option Char} {c : Char} {states : List Node} :
    m ∈ step before c states <-> exists n, n ∈ states ∧ m ∈ n.after before c := by
  unfold step
  rw [mem_foldl_insertNew, List.mem_flatMap]
  simp

theorem proper_of_mem_step {m : Node} {before : Option Char} {c : Char} {states : List Node}
    (hstates : forall n, n ∈ states -> n.Proper) (h : m ∈ step before c states) : m.Proper := by
  rcases mem_step.mp h with ⟨n, hn, hm⟩
  exact Node.proper_of_mem_after (hstates n hn) hm

/-- Some state matches a stretch here if and only if it matches the empty one or goes on. -/
theorem exists_state_spans_cons_iff {states : List Node}
    (hstates : forall n, n ∈ states -> n.Proper) (before : Option Char) (c : Char)
    (rest : List Char) :
    (exists n, n ∈ states ∧ exists q, n.Spans ⟨before, c :: rest⟩ q) <->
      states.any (Node.nullable before (some c)) = true ∨
        exists m, m ∈ step before c states ∧ exists q, m.Spans ⟨some c, rest⟩ q := by
  rw [List.any_eq_true]
  constructor
  · intro h
    rcases h with ⟨n, hn, hspans⟩
    cases (Node.exists_spans_cons_iff (hstates n hn) before c rest).mp hspans with
    | inl hnull => exact Or.inl ⟨n, hn, hnull⟩
    | inr hafter =>
        rcases hafter with ⟨m, hm, hq⟩
        exact Or.inr ⟨m, mem_step.mpr ⟨n, hn, hm⟩, hq⟩
  · intro h
    cases h with
    | inl hnull =>
        rcases hnull with ⟨n, hn, hnull⟩
        exact ⟨n, hn, (Node.exists_spans_cons_iff (hstates n hn) before c rest).mpr (Or.inl hnull)⟩
    | inr hstep =>
        rcases hstep with ⟨m, hm, hq⟩
        rcases mem_step.mp hm with ⟨n, hn, hafter⟩
        exact ⟨n, hn,
          (Node.exists_spans_cons_iff (hstates n hn) before c rest).mpr (Or.inr ⟨m, hafter, hq⟩)⟩

def Node.Occurs (n : Node) (before : Option Char) (text : List Char) : Prop :=
  exists pre post, text = pre ++ post ∧ exists q, n.Spans ⟨pre.getLast?.or before, post⟩ q

theorem occurs_nil_iff (n : Node) (before : Option Char) :
    n.Occurs before [] <-> exists q, n.Spans ⟨before, []⟩ q := by
  constructor
  · intro h
    rcases h with ⟨pre, post, heq, hspans⟩
    rcases List.append_eq_nil_iff.mp heq.symm with ⟨rfl, rfl⟩
    exact hspans
  · intro h
    exact ⟨[], [], rfl, h⟩

theorem occurs_cons_iff (n : Node) (before : Option Char) (c : Char) (rest : List Char) :
    n.Occurs before (c :: rest) <->
      (exists q, n.Spans ⟨before, c :: rest⟩ q) ∨ n.Occurs (some c) rest := by
  have hlast (pre : List Char) : (c :: pre).getLast?.or before = pre.getLast?.or (some c) := by
    rw [List.getLast?_cons, Option.or_some]
    rfl
  constructor
  · intro h
    rcases h with ⟨pre, post, heq, hspans⟩
    cases pre with
    | nil =>
        rw [List.nil_append] at heq
        rw [heq]
        exact Or.inl hspans
    | cons d pre =>
        cases heq
        rw [hlast pre] at hspans
        exact Or.inr ⟨pre, post, rfl, hspans⟩
  · intro h
    cases h with
    | inl hhere => exact ⟨[], c :: rest, rfl, hhere⟩
    | inr hlater =>
        rcases hlater with ⟨pre, post, rfl, hspans⟩
        refine ⟨c :: pre, post, rfl, ?_⟩
        rw [hlast pre]
        exact hspans

/-- The search finds a stretch that a state matches here, or one that begins here or later. -/
theorem search_iff {start : Node} (hstart : start.Proper) (before : Option Char)
    {states : List Node} (hstates : forall n, n ∈ states -> n.Proper) (text : List Char) :
    search start before states text = true <->
      (exists n, n ∈ states ∧ exists q, n.Spans ⟨before, text⟩ q) ∨ start.Occurs before text := by
  induction text generalizing before states with
  | nil =>
      rw [occurs_nil_iff, ← exists_state_insertNew_iff, search, List.any_eq_true]
      constructor
      · intro h
        rcases h with ⟨n, hn, hnull⟩
        exact ⟨n, hn,
          (Node.exists_spans_nil_iff (proper_of_mem_insertNew hstart hstates hn) before).mpr hnull⟩
      · intro h
        rcases h with ⟨n, hn, hspans⟩
        exact ⟨n, hn,
          (Node.exists_spans_nil_iff (proper_of_mem_insertNew hstart hstates hn) before).mp hspans⟩
  | cons c rest ih =>
      have hhere : forall n, n ∈ insertNew start states -> n.Proper := by
        intro n hn
        exact proper_of_mem_insertNew hstart hstates hn
      have hstep : forall n, n ∈ step before c (insertNew start states) -> n.Proper := by
        intro n hn
        exact proper_of_mem_step hhere hn
      rw [occurs_cons_iff, ← or_assoc, ← exists_state_insertNew_iff,
        exists_state_spans_cons_iff hhere, or_assoc, search, Bool.or_eq_true]
      exact or_congr_right (ih (some c) hstep)

/-- A text is matched if and only if some stretch of it is. -/
theorem occursIn_iff {n : Node} (hproper : n.Proper) (text : List Char) :
    n.occursIn text = true <-> n.Occurs none text := by
  unfold Node.occursIn
  rw [search_iff hproper none (fun m hm => absurd hm List.not_mem_nil)]
  simp

end Pattern
end AnalysisHarness
