import AnalysisHarness.Proofs.Pattern.Runs

/-!
# Readers that agree

The operations of the reader look at little of its state: the flags, which parts can be repeated,
how many groups are open and which names are taken. A relation of two states that each operation
keeps is therefore kept by every expression and every run, and the second reader succeeds wherever
the first one does. A property that each operation keeps is the case of two equal states.
-/

namespace AnalysisHarness
namespace Pattern

namespace ReaderState

def setFlags (s : ReaderState) (flags : Flags) : ReaderState :=
  { s with group := { s.group with flags := flags } }

def addName (s : ReaderState) (name : List Char) : ReaderState :=
  { s with names := name :: s.names }

end ReaderState

/-- A relation of states that every operation of the reader keeps, for names that are allowed. -/
structure Simulation (R : ReaderState -> ReaderState -> Prop) (allowed : List Char -> Prop) :
    Prop where
  flags : forall {s u}, R s u -> u.group.flags = s.group.flags
  push : forall {s u part}, R s u -> part.node.Proper -> R (s.push part) (u.push part)
  setFlags : forall {s u} flags, R s u -> R (s.setFlags flags) (u.setFlags flags)
  openGroup : forall {s u} flags, R s u -> R (s.openGroup flags) (u.openGroup flags)
  closeGroup : forall {s u s'}, R s u -> s.closeGroup = .ok s' ->
    exists u', u.closeGroup = .ok u' ∧ R s' u'
  nextAlternative : forall {s u}, R s u -> R s.nextAlternative u.nextAlternative
  repeatLast : forall {s u s' min max}, R s u -> (forall n, n ∈ max -> min ≤ n) ->
    s.repeatLast min max = .ok s' -> exists u', u.repeatLast min max = .ok u' ∧ R s' u'
  addName : forall {s u name}, R s u -> allowed name -> name ∉ s.names ->
    name ∉ u.names ∧ R (s.addName name) (u.addName name)

namespace Simulation

section

variable {R : ReaderState -> ReaderState -> Prop} {allowed : List Char -> Prop}
variable (sim : Simulation R allowed)
include sim

theorem openNamed_eq_ok {s u s' : ReaderState} {cs rest : List Char} (hR : R s u)
    (h : openNamed s cs = .ok (s', rest)) (hnames : forall name, name ∈ s'.names -> allowed name) :
    exists u', openNamed u cs = .ok (u', rest) ∧ R s' u' := by
  rcases exists_of_bind_eq_ok h with ⟨⟨name, after⟩, hname, h⟩
  dsimp only at h
  split at h
  · cases h
  · rename_i hfree
    cases h
    rw [List.contains_iff_mem] at hfree
    have hallowed : allowed name := hnames name List.mem_cons_self
    rcases sim.addName hR hallowed hfree with ⟨hfree', hadded⟩
    have hopened := sim.openGroup s.group.flags hadded
    refine ⟨_, bind_eq_ok hname (if_neg ?_), sim.flags hR ▸ hopened⟩
    rw [List.contains_iff_mem]
    exact hfree'

theorem readSetting_eq_ok {s u s' : ReaderState} {cs rest : List Char} (hR : R s u)
    (h : readSetting s cs = .ok (s', rest)) :
    exists u', readSetting u cs = .ok (u', rest) ∧ R s' u' := by
  rcases exists_of_bind_eq_ok h with ⟨setting, hsetting, h⟩
  rw [← sim.flags hR] at hsetting
  split at h
  · rename_i hopens
    cases h
    exact ⟨_, bind_eq_ok hsetting (if_pos hopens), sim.openGroup setting.flags hR⟩
  · rename_i hopens
    split at h
    · cases h
    · rename_i hempty
      cases h
      exact ⟨_, bind_eq_ok hsetting ((if_neg hopens).trans (if_neg hempty)),
        sim.push (sim.setFlags setting.flags hR) trivial⟩

theorem readGroupStart_eq_ok {s u s' : ReaderState} {cs rest : List Char} (hR : R s u)
    (h : readGroupStart s cs = .ok (s', rest))
    (hnames : forall name, name ∈ s'.names -> allowed name) :
    exists u', readGroupStart u cs = .ok (u', rest) ∧ R s' u' := by
  rw [readGroupStart_eq] at h
  simp only [readGroupStart_eq]
  rw [sim.flags hR]
  split at h
  · cases h
  · cases h
  · cases h
  · cases h
  · exact sim.openNamed_eq_ok hR h hnames
  · exact sim.openNamed_eq_ok hR h hnames
  · exact sim.readSetting_eq_ok hR h
  · cases h
    exact ⟨_, rfl, sim.openGroup s.group.flags hR⟩

/-- Whatever expression one reader takes, the other one takes too. -/
theorem readExpression_eq_ok {s u s' : ReaderState} {c : Char} {rest after : List Char}
    (hR : R s u) (h : readExpression s c rest = .ok (s', after))
    (hnames : forall name, name ∈ s'.names -> allowed name) :
    exists u', readExpression u c rest = .ok (u', after) ∧ R s' u' := by
  have hflags := sim.flags hR
  unfold readExpression at h ⊢
  dsimp only at h ⊢
  split at h
  · exact sim.readGroupStart_eq_ok hR h hnames
  · rcases exists_of_map_eq_ok h with ⟨closed, hclosed, h⟩
    cases h
    rcases sim.closeGroup hR hclosed with ⟨u', hu', hR'⟩
    exact ⟨u', by rw [hu']; rfl, hR'⟩
  · cases h
    exact ⟨_, rfl, sim.nextAlternative hR⟩
  · rcases exists_of_bind_eq_ok h with ⟨⟨part, inner⟩, hread, h⟩
    cases h
    rw [← hflags] at hread
    exact ⟨_, bind_eq_ok hread rfl, sim.push hR trivial⟩
  · rcases exists_of_map_eq_ok h with ⟨repeated, hrepeated, h⟩
    cases h
    have hbounds : forall n, n ∈ some 1 -> 0 ≤ n := fun n _ => Nat.zero_le n
    rcases sim.repeatLast hR hbounds hrepeated with ⟨u', hu', hR'⟩
    exact ⟨u', by rw [hu']; rfl, hR'⟩
  · rcases exists_of_map_eq_ok h with ⟨repeated, hrepeated, h⟩
    cases h
    rcases sim.repeatLast hR (fun n hn => (Option.not_mem_none n hn).elim) hrepeated with
      ⟨u', hu', hR'⟩
    exact ⟨u', by rw [hu']; rfl, hR'⟩
  · rcases exists_of_map_eq_ok h with ⟨repeated, hrepeated, h⟩
    cases h
    rcases sim.repeatLast hR (fun n hn => (Option.not_mem_none n hn).elim) hrepeated with
      ⟨u', hu', hR'⟩
    exact ⟨u', by rw [hu']; rfl, hR'⟩
  · rcases exists_of_bind_eq_ok h with ⟨⟨least, most, inner⟩, hbounds, h⟩
    rcases exists_of_map_eq_ok h with ⟨repeated, hrepeated, h⟩
    cases h
    rcases sim.repeatLast hR (le_of_readBounds hbounds) hrepeated with ⟨u', hu', hR'⟩
    rw [← hflags] at hbounds
    exact ⟨u', bind_eq_ok hbounds (by rw [hu']; rfl), hR'⟩
  · rcases exists_of_bind_eq_ok h with ⟨cls, hcls, h⟩
    cases h
    rw [← hflags] at hcls
    exact ⟨_, bind_eq_ok hcls rfl, sim.push hR trivial⟩
  · cases h
    rw [hflags]
    exact ⟨_, rfl, sim.push hR trivial⟩
  · cases h
    rw [hflags]
    exact ⟨_, rfl, sim.push hR trivial⟩
  · rcases exists_of_bind_eq_ok h with ⟨⟨escape, inner⟩, hescape, h⟩
    rw [← hflags] at hescape
    cases escape with
    | literal c =>
        cases h
        refine ⟨_, bind_eq_ok hescape rfl, ?_⟩
        rw [ReaderState.pushLiteral, ReaderState.pushLiteral, hflags]
        exact sim.push hR trivial
    | members cls | look a =>
        cases h
        exact ⟨_, bind_eq_ok hescape rfl, sim.push hR trivial⟩
  · cases h
    refine ⟨_, rfl, ?_⟩
    rw [ReaderState.pushLiteral, ReaderState.pushLiteral, hflags]
    exact sim.push hR trivial

end

end Simulation

/-!
## Properties that are kept
-/

namespace ReaderState

def setParts (s : ReaderState) (parts : List Part) : ReaderState :=
  { s with group := { s.group with parts := parts } }

def backIn (s : ReaderState) (g : OpenGroup) (outer : List OpenGroup) : ReaderState :=
  { s with group := g, outer := outer }

theorem closeGroup_eq_ok {s s' : ReaderState} (h : s.closeGroup = .ok s') :
    exists g outer, s.outer = g :: outer ∧
      s' = (s.backIn g outer).push ⟨s.group.close.node, 1 + s.group.close.depth, true⟩ := by
  rw [closeGroup] at h
  split at h
  · cases h
  · rename_i g outer houter
    cases h
    exact ⟨g, outer, houter, rfl⟩

theorem closeGroup_of_outer {s : ReaderState} {g : OpenGroup} {outer : List OpenGroup}
    (houter : s.outer = g :: outer) :
    s.closeGroup =
      .ok ((s.backIn g outer).push ⟨s.group.close.node, 1 + s.group.close.depth, true⟩) := by
  rw [closeGroup, houter]
  rfl

theorem repeatLast_eq_ok {s s' : ReaderState} {min : Nat} {max : Option Nat}
    (h : s.repeatLast min max = .ok s') :
    exists last parts, s.group.parts = last :: parts ∧ last.repeatable = true ∧
      s' = s.setParts (⟨.rep last.node min max, 1 + last.depth, true⟩ :: parts) := by
  rw [repeatLast] at h
  split at h
  · cases h
  · rename_i last parts hparts
    split at h
    · rename_i hrepeatable
      cases h
      exact ⟨last, parts, hparts, hrepeatable, rfl⟩
    · cases h

theorem repeatLast_of_parts {s : ReaderState} {last : Part} {parts : List Part}
    (hparts : s.group.parts = last :: parts) (hrepeatable : last.repeatable = true) (min : Nat)
    (max : Option Nat) :
    s.repeatLast min max =
      .ok (s.setParts (⟨.rep last.node min max, 1 + last.depth, true⟩ :: parts)) := by
  rw [repeatLast, hparts]
  exact if_pos hrepeatable

end ReaderState

/-- A property of states that every operation of the reader keeps. -/
structure Invariant (P : ReaderState -> Prop) : Prop where
  push : forall {s part}, P s -> part.node.Proper -> P (s.push part)
  setFlags : forall {s} flags, P s -> P (s.setFlags flags)
  openGroup : forall {s} flags, P s -> P (s.openGroup flags)
  closeGroup : forall {s s'}, P s -> s.closeGroup = .ok s' -> P s'
  nextAlternative : forall {s}, P s -> P s.nextAlternative
  repeatLast : forall {s s' min max}, P s -> (forall n, n ∈ max -> min ≤ n) ->
    s.repeatLast min max = .ok s' -> P s'
  addName : forall {s} name, P s -> P (s.addName name)

namespace Invariant

variable {P : ReaderState -> Prop}

theorem simulation (inv : Invariant P) :
    Simulation (fun s u => u = s ∧ P s) (fun _ => True) where
  flags h := by rw [h.1]
  push h hproper := ⟨by rw [h.1], inv.push h.2 hproper⟩
  setFlags flags h := ⟨by rw [h.1], inv.setFlags flags h.2⟩
  openGroup flags h := ⟨by rw [h.1], inv.openGroup flags h.2⟩
  closeGroup h hclose := ⟨_, by rw [h.1, hclose], rfl, inv.closeGroup h.2 hclose⟩
  nextAlternative h := ⟨by rw [h.1], inv.nextAlternative h.2⟩
  repeatLast h hbounds hrepeat :=
    ⟨_, by rw [h.1, hrepeat], rfl, inv.repeatLast h.2 hbounds hrepeat⟩
  addName h _ hfree := ⟨by rw [h.1]; exact hfree, by rw [h.1], inv.addName _ h.2⟩

theorem readExpression (inv : Invariant P) {s s' : ReaderState} {c : Char}
    {rest after : List Char} (hP : P s) (h : readExpression s c rest = .ok (s', after)) : P s' := by
  rcases inv.simulation.readExpression_eq_ok ⟨rfl, hP⟩ h (fun _ _ => trivial) with
    ⟨u', _hread, _heq, hP'⟩
  exact hP'

theorem leads (inv : Invariant P) {s s' : ReaderState} {cs after : List Char} (hP : P s)
    (h : Leads s cs s' after) : P s' := by
  induction h with
  | refl s cs => exact hP
  | step _hskip hread _hleads ih => exact ih (inv.readExpression hP hread)

end Invariant

theorem invariant_names (taken : List (List Char)) : Invariant (fun s => taken ⊆ s.names) where
  push h _ := h
  setFlags _ h := h
  openGroup _ h := h
  closeGroup h hclose := by
    rcases ReaderState.closeGroup_eq_ok hclose with ⟨g, outer, _houter, rfl⟩
    exact h
  nextAlternative h := h
  repeatLast h _ hrepeat := by
    rcases ReaderState.repeatLast_eq_ok hrepeat with ⟨last, parts, _hparts, _hrepeatable, rfl⟩
    exact h
  addName name h := List.Subset.trans h (List.subset_cons_self name _)

/-- Whatever run one reader makes, the other one makes too. -/
theorem Simulation.leads {R : ReaderState -> ReaderState -> Prop} {allowed : List Char -> Prop}
    (sim : Simulation R allowed) {s u s' : ReaderState} {cs after : List Char} (hR : R s u)
    (h : Leads s cs s' after) (hnames : forall name, name ∈ s'.names -> allowed name) :
    exists u', Leads u cs u' after ∧ R s' u' := by
  induction h generalizing u with
  | refl s cs => exact ⟨u, .refl u cs, hR⟩
  | step hskip hread hleads ih =>
      have hkept := (invariant_names _).leads (List.Subset.refl _) hleads
      rcases sim.readExpression_eq_ok hR hread (fun name hname => hnames name (hkept hname)) with
        ⟨mid, hread', hR'⟩
      rcases ih hR' hnames with ⟨u', hleads', hR'⟩
      rw [← sim.flags hR] at hskip
      exact ⟨u', .step hskip hread' hleads', hR'⟩

/-!
## Repetitions in order
-/

structure OpenGroup.Proper (g : OpenGroup) : Prop where
  parts : forall part, part ∈ g.parts -> part.node.Proper
  alternatives : forall part, part ∈ g.alternatives -> part.node.Proper

structure ReaderState.Proper (s : ReaderState) : Prop where
  group : s.group.Proper
  outer : forall g, g ∈ s.outer -> g.Proper

theorem Node.proper_altAll {nodes : List Node} (hnodes : forall n, n ∈ nodes -> n.Proper) :
    (Node.altAll nodes).Proper := by
  induction nodes with
  | nil => trivial
  | cons a others ih =>
      cases others with
      | nil => exact hnodes a (List.mem_singleton.mpr rfl)
      | cons b others =>
          refine ⟨hnodes a List.mem_cons_self, ih ?_⟩
          intro n hn
          exact hnodes n (List.mem_cons_of_mem a hn)

theorem Part.proper_join {build : List Node -> Node} {parts : List Part}
    (hbuild : forall nodes, (forall n, n ∈ nodes -> n.Proper) -> (build nodes).Proper)
    (hparts : forall part, part ∈ parts -> part.node.Proper) :
    (Part.join build parts).node.Proper := by
  unfold Part.join
  split
  · trivial
  · exact hparts _ List.mem_cons_self
  · refine hbuild _ ?_
    intro n hn
    rcases List.mem_map.mp hn with ⟨part, hpart, rfl⟩
    exact hparts part (List.mem_reverse.mp hpart)

theorem OpenGroup.Proper.finished {g : OpenGroup} (h : g.Proper) {part : Part}
    (hpart : part ∈ g.finished) : part.node.Proper := by
  rcases List.mem_cons.mp hpart with rfl | hpart
  · exact Part.proper_join (fun _ hnodes => Node.proper_seqAll hnodes) h.parts
  · exact h.alternatives part hpart

theorem OpenGroup.Proper.close {g : OpenGroup} (h : g.Proper) : g.close.node.Proper :=
  Part.proper_join (fun _ hnodes => Node.proper_altAll hnodes) fun _ hpart => h.finished hpart

theorem OpenGroup.Proper.setParts {g : OpenGroup} (h : g.Proper) {parts : List Part}
    (hparts : forall part, part ∈ parts -> part.node.Proper) :
    OpenGroup.Proper { g with parts := parts } :=
  ⟨hparts, h.alternatives⟩

theorem OpenGroup.proper_start (flags : Flags) : (OpenGroup.start flags).Proper :=
  ⟨List.forall_mem_nil _, List.forall_mem_nil _⟩

theorem invariant_proper : Invariant ReaderState.Proper where
  push h hproper := ⟨h.group.setParts (List.forall_mem_cons.mpr ⟨hproper, h.group.parts⟩), h.outer⟩
  setFlags _ h := ⟨⟨h.group.parts, h.group.alternatives⟩, h.outer⟩
  openGroup _ h :=
    ⟨OpenGroup.proper_start _, List.forall_mem_cons.mpr ⟨h.group, h.outer⟩⟩
  closeGroup {s s'} h hclose := by
    rcases ReaderState.closeGroup_eq_ok hclose with ⟨g, outer, houter, rfl⟩
    have hall := h.outer
    rw [houter, List.forall_mem_cons] at hall
    exact ⟨hall.1.setParts (List.forall_mem_cons.mpr ⟨h.group.close, hall.1.parts⟩), hall.2⟩
  nextAlternative h :=
    ⟨⟨List.forall_mem_nil _, fun _ hpart => h.group.finished hpart⟩, h.outer⟩
  repeatLast h hbounds hrepeat := by
    rcases ReaderState.repeatLast_eq_ok hrepeat with ⟨last, parts, hparts, _hrepeatable, rfl⟩
    have hall := h.group.parts
    rw [hparts, List.forall_mem_cons] at hall
    exact ⟨h.group.setParts (List.forall_mem_cons.mpr ⟨⟨hall.1, hbounds⟩, hall.2⟩), h.outer⟩
  addName _ h := ⟨h.group, h.outer⟩

end Pattern
end AnalysisHarness
