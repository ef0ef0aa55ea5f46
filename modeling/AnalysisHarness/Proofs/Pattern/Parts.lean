import AnalysisHarness.Proofs.Pattern.Simulation

/-!
# Parts made into one

Several alternatives make one part. It matches what any of them matches, and it is at least as deep
and as heavy as the part that some of them make.
-/

namespace AnalysisHarness
namespace Pattern

/-!
## What alternatives match
-/

theorem Node.spans_altAll_iff {nodes : List Node} (hne : nodes ≠ []) (p q : Position) :
    (Node.altAll nodes).Spans p q <-> exists n, n ∈ nodes ∧ n.Spans p q := by
  induction nodes with
  | nil => exact absurd rfl hne
  | cons a others ih =>
      cases others with
      | nil =>
          constructor
          · intro h
            exact ⟨a, List.mem_cons_self, h⟩
          · intro h
            rcases h with ⟨n, hn, h⟩
            rw [List.mem_singleton.mp hn] at h
            exact h
      | cons b others =>
          have hspans : (Node.altAll (a :: b :: others)).Spans p q <->
              a.Spans p q ∨ (Node.altAll (b :: others)).Spans p q := Iff.rfl
          rw [hspans, ih (List.cons_ne_nil b others)]
          simp only [List.mem_cons, exists_eq_or_imp]

theorem Part.node_join_altAll (parts : List Part) :
    (Part.join Node.altAll parts).node = Node.altAll (parts.reverse.map Part.node) := by
  unfold Part.join
  split
  · rfl
  · rfl
  · rfl

theorem Part.spans_join_altAll_iff {parts : List Part} (hne : parts ≠ []) (p q : Position) :
    (Part.join Node.altAll parts).node.Spans p q <->
      exists part, part ∈ parts ∧ part.node.Spans p q := by
  have hnodes : parts.reverse.map Part.node ≠ [] := by
    rw [Ne, List.map_eq_nil_iff, List.reverse_eq_nil_iff]
    exact hne
  rw [Part.node_join_altAll, Node.spans_altAll_iff hnodes]
  constructor
  · intro h
    rcases h with ⟨n, hn, h⟩
    rcases List.mem_map.mp hn with ⟨part, hpart, rfl⟩
    exact ⟨part, List.mem_reverse.mp hpart, h⟩
  · intro h
    rcases h with ⟨part, hpart, h⟩
    exact ⟨part.node, List.mem_map_of_mem (List.mem_reverse.mpr hpart), h⟩

/-!
## How heavy alternatives are
-/

theorem Node.weight_altAll_cons (a : Node) {nodes : List Node} (hne : nodes ≠ []) :
    (Node.altAll (a :: nodes)).weight = a.weight + (Node.altAll nodes).weight + 32 := by
  cases nodes with
  | nil => exact absurd rfl hne
  | cons b others => rfl

theorem Node.weight_altAll_le {nodes more : List Node} (h : nodes.Sublist more)
    (hne : nodes ≠ []) : (Node.altAll nodes).weight ≤ (Node.altAll more).weight := by
  induction h with
  | slnil => exact absurd rfl hne
  | @cons nodes more a hsub ih =>
      have hmore : more ≠ [] := fun hnil => hne (List.sublist_nil.mp (hnil ▸ hsub))
      have hle := ih hne
      rw [Node.weight_altAll_cons a hmore]
      omega
  | @cons_cons nodes more a hsub ih =>
      by_cases hnodes : nodes = []
      · by_cases hmore : more = []
        · exact Nat.le_of_eq (by rw [hnodes, hmore])
        · rw [hnodes, Node.weight_altAll_cons a hmore, Node.altAll]
          omega
      · have hmore : more ≠ [] := fun hnil => hnodes (List.sublist_nil.mp (hnil ▸ hsub))
        have hle := ih hnodes
        rw [Node.weight_altAll_cons a hmore, Node.weight_altAll_cons a hnodes]
        omega

theorem Part.weight_join_altAll_le {parts more : List Part} (h : parts.Sublist more)
    (hne : parts ≠ []) :
    (Part.join Node.altAll parts).node.weight ≤ (Part.join Node.altAll more).node.weight := by
  rw [Part.node_join_altAll, Part.node_join_altAll]
  refine Node.weight_altAll_le (h.reverse.map Part.node) ?_
  rw [Ne, List.map_eq_nil_iff, List.reverse_eq_nil_iff]
  exact hne

/-!
## How deep alternatives are
-/

theorem foldl_max_le_iff (depths : List Nat) (least bound : Nat) :
    depths.foldl Nat.max least ≤ bound <-> least ≤ bound ∧ forall d, d ∈ depths -> d ≤ bound := by
  induction depths generalizing least with
  | nil => exact ⟨fun h => ⟨h, List.forall_mem_nil _⟩, fun h => h.1⟩
  | cons d depths ih =>
      rw [List.foldl_cons, ih, List.forall_mem_cons, ← and_assoc]
      exact and_congr_left fun _ => Nat.max_le

theorem le_foldl_max {d : Nat} {depths : List Nat} (h : d ∈ depths) :
    d ≤ depths.foldl Nat.max 0 :=
  ((foldl_max_le_iff depths 0 _).mp (Nat.le_refl _)).2 d h

theorem Part.depth_le_join (build : List Node -> Node) {parts : List Part} {part : Part}
    (h : part ∈ parts) : part.depth ≤ (Part.join build parts).depth := by
  unfold Part.join
  split
  · cases h
  · exact Nat.le_of_eq (congrArg Part.depth (List.mem_singleton.mp h))
  · have hmem : part.depth ∈ parts.map Part.depth := List.mem_map_of_mem h
    have hle := le_foldl_max hmem
    dsimp only
    omega

theorem Part.depth_join_le_of_forall (build : List Node -> Node) {parts : List Part} {bound : Nat}
    (h : forall part, part ∈ parts -> part.depth ≤ bound) :
    (Part.join build parts).depth ≤ 1 + bound := by
  unfold Part.join
  split
  · exact Nat.zero_le _
  · exact Nat.le_add_left_of_le (h _ List.mem_cons_self)
  · refine Nat.add_le_add_left ((foldl_max_le_iff _ _ _).mpr ⟨Nat.zero_le _, ?_⟩) 1
    exact List.forall_mem_map.mpr h

theorem Part.depth_join_le (build : List Node -> Node) {parts more : List Part}
    (h : parts.Sublist more) : (Part.join build parts).depth ≤ (Part.join build more).depth := by
  match parts, more, h with
  | [], _, _ => exact Nat.zero_le _
  | [only], _, h => exact Part.depth_le_join build (h.subset List.mem_cons_self)
  | a :: b :: parts, [], h => exact absurd h (by simp)
  | a :: b :: parts, [only], h => exact absurd h.length_le (by simp)
  | a :: b :: parts, c :: d :: more, h =>
      refine Nat.add_le_add_left ((foldl_max_le_iff _ _ _).mpr ⟨Nat.zero_le _, ?_⟩) 1
      intro depth hdepth
      exact le_foldl_max ((h.map Part.depth).subset hdepth)

end Pattern
end AnalysisHarness
