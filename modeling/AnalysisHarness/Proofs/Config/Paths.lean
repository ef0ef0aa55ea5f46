import AnalysisHarness.Proofs.Config.Overlay
import AnalysisHarness.Proofs.Text.Entries

/-!
# Documents over documents, path by path

What stands in a document is reached by paths of keys. Laid over one document, another one decides
what stands at every path that it reaches and at every path beyond a value of it that is no table;
all other paths are left as they were. Documents are determined by what stands at their paths, so
laws of merging follow from that.
-/

namespace AnalysisHarness
namespace Config

open Text Toml

/-!
## What stands at a path

Of a table only that it is one is seen, since longer paths lead into it.
-/

inductive Surface where
  | leaf (v : Value)
  | table

def surface : Value -> Surface
  | .table _ => .table
  | v => .leaf v

/-- What stands in a value at a path of keys, if anything does. -/
def surfaceAt : List String -> Value -> Option Surface
  | [], v => some (surface v)
  | key :: path, v => (v.entry? key).bind (surfaceAt path)

def LeafAt (path : List String) (v document : Value) : Prop :=
  surfaceAt path document = some (.leaf v)

def TableAt (path : List String) (document : Value) : Prop :=
  surfaceAt path document = some .table

/--
A document has nothing at a path, and not because the path leads beyond a value that is no table.
-/
structure LeavesOpen (path : List String) (document : Value) : Prop where
  nothing : surfaceAt path document = none
  through : forall before, before <+: path -> before ≠ path -> forall v, ¬LeafAt before v document

theorem surface_of_not_table {v : Value} (h : isTable v = false) : surface v = .leaf v := by
  cases v with
  | table entries => cases h
  | _ => rfl

theorem eq_of_surface_eq_leaf {v w : Value} (h : surface w = .leaf v) : w = v := by
  cases w with
  | table entries => cases h
  | _ => exact Surface.leaf.inj h

theorem isTable_eq_false {v : Value} (h : forall entries, v ≠ .table entries) :
    isTable v = false := by
  cases hv : isTable v with
  | false => rfl
  | true =>
      rcases exists_table_of_isTable hv with ⟨entries, rfl⟩
      exact absurd rfl (h entries)

theorem entry?_of_not_table {v : Value} (h : isTable v = false) (key : String) :
    v.entry? key = none := by
  cases v with
  | table entries => cases h
  | _ => rfl

theorem surfaceAt_cons_of_not_table {v : Value} (h : isTable v = false) (key : String)
    (path : List String) : surfaceAt (key :: path) v = none := by
  rw [surfaceAt, entry?_of_not_table h]
  rfl

theorem surfaceAt_cons_table (key : String) (path : List String) (entries : Keyed Value) :
    surfaceAt (key :: path) (.table entries) = (Keyed.find? entries key).bind (surfaceAt path) :=
  rfl

/-!
## Paths that are left open
-/

theorem not_leavesOpen_nil (document : Value) : ¬LeavesOpen [] document := by
  intro h
  cases h.nothing

theorem not_leavesOpen_of_not_table {v : Value} (h : isTable v = false) (path : List String) :
    ¬LeavesOpen path v := by
  intro hopen
  cases path with
  | nil => exact not_leavesOpen_nil v hopen
  | cons key path =>
      apply hopen.through [] (List.nil_prefix) (List.cons_ne_nil key path).symm v
      exact congrArg some (surface_of_not_table h)

/-- Below a key, a table leaves open what the value there leaves open, and all if there is none. -/
theorem leavesOpen_cons_iff (key : String) (path : List String) (entries : Keyed Value) :
    LeavesOpen (key :: path) (.table entries) <->
      forall v, Keyed.find? entries key = some v -> LeavesOpen path v := by
  constructor
  · intro hopen v hfind
    constructor
    · have hnothing := hopen.nothing
      rw [surfaceAt_cons_table, hfind] at hnothing
      exact hnothing
    · intro before hbefore hne w hleaf
      apply hopen.through (key :: before) (List.cons_prefix_cons.mpr ⟨rfl, hbefore⟩)
        (fun heq => hne (List.cons.inj heq).2) w
      rw [LeafAt, surfaceAt_cons_table, hfind]
      exact hleaf
  · intro hbelow
    constructor
    · rw [surfaceAt_cons_table]
      cases hfind : Keyed.find? entries key with
      | none => rfl
      | some v => exact (hbelow v hfind).nothing
    · intro before hbefore hne w hleaf
      cases before with
      | nil => cases hleaf
      | cons name before =>
          rcases List.cons_prefix_cons.mp hbefore with ⟨rfl, hprefix⟩
          rw [LeafAt, surfaceAt_cons_table] at hleaf
          cases hfind : Keyed.find? entries name with
          | none =>
              rw [hfind] at hleaf
              cases hleaf
          | some v =>
              rw [hfind] at hleaf
              exact (hbelow v hfind).through before hprefix (fun heq => hne (heq ▸ rfl)) w hleaf

/-!
## One document over another
-/

/-- The upper document decides, unless it leaves the path open to the lower one. -/
theorem surfaceAt_overlay {upper : Value} (h : upper.Sorted) (base : Value) (path : List String)
    (seen : Surface) :
    surfaceAt path (overlay base upper) = some seen <->
      surfaceAt path upper = some seen ∨
        LeavesOpen path upper ∧ surfaceAt path base = some seen := by
  induction path generalizing base upper with
  | nil =>
      have hshape : surface (overlay base upper) = surface upper := by
        cases hupper : isTable upper with
        | false => rw [overlay_of_not_table base hupper]
        | true =>
            rcases exists_table_of_isTable hupper with ⟨entries, rfl⟩
            rcases exists_table_of_isTable (isTable_overlay base hupper) with ⟨merged, hmerged⟩
            rw [hmerged]
            rfl
      simp [surfaceAt, hshape, not_leavesOpen_nil]
  | cons key path ih =>
      cases hupper : isTable upper with
      | false =>
          rw [overlay_of_not_table base hupper]
          simp [not_leavesOpen_of_not_table hupper]
      | true =>
          rcases exists_table_of_isTable hupper with ⟨above, rfl⟩
          cases hbase : isTable base with
          | false =>
              rw [overlay_table_of_not_table hbase]
              simp [surfaceAt_cons_of_not_table hbase]
          | true =>
              rcases exists_table_of_isTable hbase with ⟨entries, rfl⟩
              cases h with
              | leaf hleaf => exact absurd rfl (hleaf above)
              | table hkeys hvalues =>
                  rw [overlay, surfaceAt_cons_table, surfaceAt_cons_table, surfaceAt_cons_table,
                    find?_overlayEntries hkeys, leavesOpen_cons_iff]
                  cases hfind : Keyed.find? above key with
                  | none => simp [overlay?]
                  | some v =>
                      have hsorted : v.Sorted := hvalues (key, v) (Keyed.mem_of_find? hfind)
                      cases hbelow : Keyed.find? entries key with
                      | none => simp [overlay?]
                      | some w => simpa [overlay?] using ih hsorted w

/-!
## Documents by their paths
-/

theorem sorted_overlayEntries {entries upper : Keyed Value} (hkeys : Keyed.Ordered entries)
    (hvalues : forall entry, entry ∈ entries -> entry.2.Sorted)
    (hupper : forall entry, entry ∈ upper -> entry.2.Sorted ∧
      forall base : Value, base.Sorted -> (overlay base entry.2).Sorted) :
    (Value.table (overlayEntries entries upper)).Sorted := by
  induction upper generalizing entries with
  | nil =>
      rw [overlayEntries]
      exact .table hkeys hvalues
  | cons first upper ih =>
      rcases first with ⟨key, v⟩
      rcases List.forall_mem_cons.mp hupper with ⟨⟨hv, hover⟩, hrest⟩
      rw [overlayEntries]
      refine ih (Keyed.ordered_put key _ hkeys) ?_ hrest
      intro entry hentry
      cases Keyed.mem_put hentry with
      | inr hold => exact hvalues entry hold
      | inl hnew =>
          rw [hnew]
          cases hfind : Keyed.find? entries key with
          | none => exact hv
          | some base => exact hover base (hvalues (key, base) (Keyed.mem_of_find? hfind))

theorem sorted_overlay {base upper : Value} (hbase : base.Sorted) (hupper : upper.Sorted) :
    (overlay base upper).Sorted := by
  induction hupper generalizing base with
  | leaf hleaf =>
      rw [overlay_of_not_table base (isTable_eq_false hleaf)]
      exact .leaf hleaf
  | table hkeys hvalues ih =>
      rename_i upper
      cases hbase with
      | leaf hleaf =>
          rw [overlay_table_of_not_table (isTable_eq_false hleaf)]
          exact .table hkeys hvalues
      | table hlower hlowers =>
          rw [overlay]
          apply sorted_overlayEntries hlower hlowers
          intro entry hentry
          exact ⟨hvalues entry hentry, fun base hbase => ih entry hentry hbase⟩

/-- Documents with the same at every path are the same. -/
theorem eq_of_surfaceAt_eq {document other : Value} (h : document.Sorted) (h' : other.Sorted)
    (hpaths : forall path, surfaceAt path document = surfaceAt path other) : document = other := by
  induction h generalizing other with
  | leaf hleaf =>
      rename_i v
      have hwhole : surface other = .leaf v := by
        rw [← surface_of_not_table (isTable_eq_false hleaf)]
        exact (Option.some.inj (hpaths [])).symm
      exact (eq_of_surface_eq_leaf hwhole).symm
  | table hkeys hvalues ih =>
      rename_i entries
      cases h' with
      | leaf hleaf =>
          have hwhole := Option.some.inj (hpaths [])
          rw [surface_of_not_table (isTable_eq_false hleaf)] at hwhole
          cases hwhole
      | table hkeys' hvalues' =>
          rename_i others
          -- what stands below a key is compared by the paths that begin with it
          have hfind : forall key, Keyed.find? entries key = Keyed.find? others key := by
            intro key
            have hbelow := fun path => hpaths (key :: path)
            simp only [surfaceAt_cons_table] at hbelow
            cases hleft : Keyed.find? entries key with
            | none =>
                cases hright : Keyed.find? others key with
                | none => rfl
                | some w =>
                    rw [hleft, hright] at hbelow
                    cases hbelow []
            | some v =>
                cases hright : Keyed.find? others key with
                | none =>
                    rw [hleft, hright] at hbelow
                    cases hbelow []
                | some w =>
                    rw [hleft, hright] at hbelow
                    have hsorted : w.Sorted := hvalues' (key, w) (Keyed.mem_of_find? hright)
                    exact congrArg some (ih (key, v) (Keyed.mem_of_find? hleft) hsorted hbelow)
          rw [Keyed.eq_of_find?_eq hkeys hkeys' hfind]

/-- A layer that is added twice changes no more than it does the first time. -/
theorem overlay_overlay_self {base upper : Value} (hbase : base.Sorted) (hupper : upper.Sorted) :
    overlay (overlay base upper) upper = overlay base upper := by
  have hmerged := sorted_overlay hbase hupper
  apply eq_of_surfaceAt_eq (sorted_overlay hmerged hupper) hmerged
  intro path
  apply Option.ext
  intro seen
  rw [surfaceAt_overlay hupper, surfaceAt_overlay hupper]
  constructor
  · rintro (habove | ⟨_hopen, hmerged⟩)
    · exact Or.inl habove
    · exact hmerged
  · rintro (habove | ⟨hopen, hbelow⟩)
    · exact Or.inl habove
    · exact Or.inr ⟨hopen, Or.inr ⟨hopen, hbelow⟩⟩

/--
Of two tables laid over each other, the upper one decides what stands at a path, whether a leaf or
a table, unless it has nothing there and none of its leaves on the way; then the lower one does.
What they come to is a table again, which the same upper table does not change any more; and an
empty one changes nothing.
-/
theorem overlay_decided_path_by_path {entries upper : Keyed Value}
    (hentries : (Value.table entries).Sorted) (hupper : (Value.table upper).Sorted) :
    let merged := overlay (.table entries) (.table upper)
    (forall path v, LeafAt path v merged <->
      LeafAt path v (.table upper) ∨
        LeavesOpen path (.table upper) ∧ LeafAt path v (.table entries)) ∧
    (forall path, TableAt path merged <->
      TableAt path (.table upper) ∨
        LeavesOpen path (.table upper) ∧ TableAt path (.table entries)) ∧
    (isTable merged = true ∧ merged.Sorted) ∧
    overlay merged (.table upper) = merged ∧
    overlay (.table entries) (.table []) = .table entries := by
  refine ⟨?_, ?_, ⟨isTable_overlay _ rfl, sorted_overlay hentries hupper⟩,
    overlay_overlay_self hentries hupper, ?_⟩
  · intro path v
    exact surfaceAt_overlay hupper (.table entries) path (.leaf v)
  · intro path
    exact surfaceAt_overlay hupper (.table entries) path .table
  · rw [overlay, overlayEntries]

def lowerTable : Keyed Value :=
  [("a", .table [("x", .integer 1), ("y", .integer 2)]), ("b", .integer 3),
    ("c", .table [("z", .boolean true)])]

def upperTable : Keyed Value :=
  [("a", .table [("y", .string "two")]), ("b", .table []), ("c", .integer 4)]

theorem sorted_lowerTable : (Value.table lowerTable).Sorted := by
  have hinner : (Value.table [("x", .integer 1), ("y", .integer 2)]).Sorted :=
    .table (Keyed.ordered_ofPairs [("x", Value.integer 1), ("y", Value.integer 2)])
      (by simp [Value.Sorted.leaf])
  have hlast : (Value.table [("z", .boolean true)]).Sorted :=
    .table (Keyed.ordered_ofPairs [("z", Value.boolean true)]) (by simp [Value.Sorted.leaf])
  exact .table (Keyed.ordered_ofPairs lowerTable)
    (by simp [lowerTable, hinner, hlast, Value.Sorted.leaf])

theorem sorted_upperTable : (Value.table upperTable).Sorted := by
  have hinner : (Value.table [("y", .string "two")]).Sorted :=
    .table (Keyed.ordered_ofPairs [("y", Value.string "two")]) (by simp [Value.Sorted.leaf])
  have hempty : (Value.table []).Sorted := .table List.Pairwise.nil (by simp)
  exact .table (Keyed.ordered_ofPairs upperTable)
    (by simp [upperTable, hinner, hempty, Value.Sorted.leaf])

theorem overlay_of_conflicting_tables_decided :
    (Value.table lowerTable).Sorted ∧ (Value.table upperTable).Sorted ∧
      let merged := overlay (.table lowerTable) (.table upperTable)
      LeafAt ["a", "x"] (.integer 1) merged ∧ LeafAt ["a", "y"] (.string "two") merged ∧
        TableAt ["b"] merged ∧ LeafAt ["c"] (.integer 4) merged ∧
        ¬LeafAt ["c", "z"] (.boolean true) merged ∧
        overlay merged (.table upperTable) = merged := by
  rcases overlay_decided_path_by_path sorted_lowerTable sorted_upperTable with
    ⟨hleaf, htable, _hwhole, htwice, _hempty⟩
  have hopen : LeavesOpen ["a", "x"] (.table upperTable) := by
    rw [upperTable, leavesOpen_cons_iff]
    intro v hv
    cases hv
    rw [leavesOpen_cons_iff]
    intro v hv
    cases hv
  have hclosed : ¬LeavesOpen ["c", "z"] (.table upperTable) := by
    intro h
    exact h.through ["c"] (by decide) (by decide) (.integer 4) rfl
  refine ⟨sorted_lowerTable, sorted_upperTable, (hleaf _ _).mpr (Or.inr ⟨hopen, rfl⟩),
    (hleaf _ _).mpr (Or.inl rfl), (htable _).mpr (Or.inl rfl), (hleaf _ _).mpr (Or.inl rfl), ?_,
    htwice⟩
  intro h
  rcases (hleaf _ _).mp h with habove | ⟨h, _hbelow⟩
  · cases habove
  · exact hclosed h

end Config
end AnalysisHarness
