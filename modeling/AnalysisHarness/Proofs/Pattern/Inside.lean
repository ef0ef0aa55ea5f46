import Mathlib.Data.List.Forall2
import AnalysisHarness.Proofs.Pattern.Simulation

/-!
# Reading inside a group

A text that never closes the group it stands in is read in the same way whatever that group holds
already, whatever groups are around it and whatever names are taken elsewhere. And whether a text
can be read at all depends on less than the state: on flags, on what can be repeated, on how many
groups are open, and on the names.
-/

namespace AnalysisHarness
namespace Pattern

/-!
## A state put into a group
-/

/--
Open groups with further alternatives already finished in the last of them and one more group
around all.
-/
inductive Beneath (finished : List Part) (around : OpenGroup) :
    OpenGroup -> List OpenGroup -> OpenGroup -> List OpenGroup -> Prop
  | bottom (g : OpenGroup) :
      Beneath finished around g [] { g with alternatives := g.alternatives ++ finished } [around]
  | above (g : OpenGroup) {h h' : OpenGroup} {outer outer' : List OpenGroup}
      (hbeneath : Beneath finished around h outer h' outer') :
      Beneath finished around g (h :: outer) g (h' :: outer')

/-- A state put into a group that holds finished alternatives, where names are taken already. -/
structure Within (finished : List Part) (around : OpenGroup) (taken : List (List Char))
    (s u : ReaderState) : Prop where
  groups : Beneath finished around s.group s.outer u.group u.outer
  names : u.names = s.names ++ taken

section Within

variable {finished : List Part} {around : OpenGroup} {taken : List (List Char)}

theorem Beneath.head {g g' : OpenGroup} {outer outer' : List OpenGroup}
    (h : Beneath finished around g outer g' outer') :
    g'.flags = g.flags ∧ g'.parts = g.parts := by
  cases h with
  | bottom => exact ⟨rfl, rfl⟩
  | above => exact ⟨rfl, rfl⟩

theorem Beneath.update {g g' : OpenGroup} {outer outer' : List OpenGroup}
    (h : Beneath finished around g outer g' outer') (change : OpenGroup -> OpenGroup)
    (hchange : forall g, change { g with alternatives := g.alternatives ++ finished } =
      { change g with alternatives := (change g).alternatives ++ finished }) :
    Beneath finished around (change g) outer (change g') outer' := by
  cases h with
  | bottom =>
      rw [hchange]
      exact .bottom _
  | above _ hbeneath => exact .above _ hbeneath

theorem Beneath.exists_of_cons {g h g' : OpenGroup} {outer groups : List OpenGroup}
    (hbeneath : Beneath finished around g (h :: outer) g' groups) :
    g' = g ∧ exists h' outer', groups = h' :: outer' ∧
      Beneath finished around h outer h' outer' := by
  cases hbeneath with
  | above _ hbeneath => exact ⟨rfl, _, _, rfl, hbeneath⟩

theorem simulation_within :
    Simulation (Within finished around taken) (fun name => name ∉ taken) where
  flags h := h.groups.head.1
  push {s u part} h _ :=
    ⟨h.groups.update (fun g => { g with parts := part :: g.parts }) fun _ => rfl, h.names⟩
  setFlags flags h := ⟨h.groups.update (fun g => { g with flags := flags }) fun _ => rfl, h.names⟩
  openGroup flags h := ⟨.above _ h.groups, h.names⟩
  closeGroup {s u s'} h hclose := by
    rcases ReaderState.closeGroup_eq_ok hclose with ⟨g, outer, houter, rfl⟩
    have hgroups := h.groups
    rw [houter] at hgroups
    rcases hgroups.exists_of_cons with ⟨hhead, g', outer', houter', hbeneath⟩
    refine ⟨_, ReaderState.closeGroup_of_outer houter', ?_, h.names⟩
    rw [hhead]
    exact hbeneath.update (fun g => { g with parts := _ :: g.parts }) fun _ => rfl
  nextAlternative h :=
    ⟨h.groups.update (fun g => { g with alternatives := g.finished, parts := [] }) fun _ => rfl,
      h.names⟩
  repeatLast {s u s' min max} h _ hrepeat := by
    rcases ReaderState.repeatLast_eq_ok hrepeat with ⟨last, parts, hparts, hrepeatable, rfl⟩
    rw [← h.groups.head.2] at hparts
    exact ⟨_, ReaderState.repeatLast_of_parts hparts hrepeatable min max,
      h.groups.update (fun g => { g with parts := _ :: parts }) fun _ => rfl, h.names⟩
  addName {s u name} h hallowed hfree := by
    refine ⟨?_, h.groups, ?_⟩
    · rw [h.names]
      exact List.not_mem_append hfree hallowed
    · rw [ReaderState.addName, ReaderState.addName, h.names]
      rfl

theorem Within.eq_of_outer_nil {s u : ReaderState} (h : Within finished around taken s u)
    (houter : s.outer = []) :
    u = ⟨{ s.group with alternatives := s.group.alternatives ++ finished }, [around],
      s.names ++ taken⟩ := by
  rcases s with ⟨g, outer, names⟩
  rcases u with ⟨g', groups, names'⟩
  rcases h with ⟨hgroups, hnames⟩
  dsimp only at houter hgroups hnames
  rw [houter] at hgroups
  cases hgroups
  rw [hnames]

end Within

/-!
## States that allow the same
-/

structure OpenGroup.Alike (g h : OpenGroup) : Prop where
  flags : h.flags = g.flags
  repeatable : h.parts.map Part.repeatable = g.parts.map Part.repeatable

/-- States that agree on what can be read, but for names that only the first one has. -/
structure ReaderState.Alike (s u : ReaderState) : Prop where
  group : s.group.Alike u.group
  outer : List.Forall₂ OpenGroup.Alike s.outer u.outer
  names : u.names ⊆ s.names

theorem simulation_alike : Simulation ReaderState.Alike (fun _ => True) where
  flags h := h.group.flags
  push {s u part} h _ :=
    ⟨⟨h.group.flags, congrArg (List.cons part.repeatable) h.group.repeatable⟩, h.outer, h.names⟩
  setFlags flags h := ⟨⟨rfl, h.group.repeatable⟩, h.outer, h.names⟩
  openGroup flags h := ⟨⟨rfl, rfl⟩, .cons h.group h.outer, h.names⟩
  closeGroup {s u s'} h hclose := by
    rcases ReaderState.closeGroup_eq_ok hclose with ⟨g, outer, houter, rfl⟩
    have hgroups := h.outer
    rw [houter] at hgroups
    rcases List.forall₂_cons_left_iff.mp hgroups with ⟨g', outer', hg, hrest, houter'⟩
    exact ⟨_, ReaderState.closeGroup_of_outer houter',
      ⟨hg.flags, congrArg (List.cons true) hg.repeatable⟩, hrest, h.names⟩
  nextAlternative h := ⟨⟨h.group.flags, rfl⟩, h.outer, h.names⟩
  repeatLast {s u s' min max} h _ hrepeat := by
    rcases ReaderState.repeatLast_eq_ok hrepeat with ⟨last, parts, hparts, hrepeatable, rfl⟩
    have hmap := h.group.repeatable
    rw [hparts, List.map_cons] at hmap
    rcases List.map_eq_cons_iff.mp hmap with ⟨last', parts', hparts', hlast, hrest⟩
    exact ⟨_, ReaderState.repeatLast_of_parts hparts' (hlast.trans hrepeatable) min max,
      ⟨h.group.flags, congrArg (List.cons true) hrest⟩, h.outer, h.names⟩
  addName {s u name} h _ hfree :=
    ⟨fun hmem => hfree (h.names hmem), h.group, h.outer, List.cons_subset_cons name h.names⟩

theorem ReaderState.Alike.readOn_eq_ok {s u s' : ReaderState} (h : s.Alike u) {cs : List Char}
    (hread : readOn s cs = .ok s') : exists u', readOn u cs = .ok u' := by
  rcases exists_leads_of_readOn hread with ⟨after, hleads, hend⟩
  rcases simulation_alike.leads h hleads (fun _ _ => trivial) with ⟨u', hleads', halike⟩
  rw [← halike.group.flags] at hend
  exact ⟨u', hleads'.readOn_eq.trans (readOn_of_skip_nil hend)⟩

end Pattern
end AnalysisHarness
