import AnalysisHarness.Proofs.Json.Reading
import AnalysisHarness.Proofs.Json.Scalar
import Mathlib.Data.List.Forall2

/-!
# Printed values are read back

A value whose numbers are integers is printed as a text of the JSON grammar, in any spacing that
puts nothing but spaces between its parts. Read back, the text stands for the same value, but for
the order of the members of its objects, as long as the integers fit into sixty-four bits and the
value is not nested too deeply.
-/

namespace AnalysisHarness
namespace Json

open Text

/-!
## Forms of printed values
-/

mutual

def form? : Json -> Option Form
  | null => some .null
  | bool b => some (.bool b)
  | number n => n.text?.map .number
  | string s => some (.string (printedUnits s))
  | array items => (forms? items).map .array
  | object members => (memberForms? members).map .object

def forms? : List Json -> Option (List Form)
  | [] => some []
  | item :: items => do
      let form <- form? item
      let forms <- forms? items
      pure (form :: forms)

def memberForms? : List (String × Json) -> Option (List (List StringUnit × Form))
  | [] => some []
  | (key, value) :: members => do
      let form <- form? value
      let forms <- memberForms? members
      pure ((printedUnits key, form) :: forms)

end

/-!
## Printing by the grammar
-/

/-- A spacing that sets the parts of a value apart by nothing but spaces. -/
structure Spacing.Blank (spacing : Spacing) : Prop where
  lineBreak : forall level, (spacing.lineBreak level).all isSpace = true
  afterKey : exists blanks, spacing.afterKey = ':' :: blanks ∧ blanks.all isSpace = true

theorem blank_indented : Spacing.indented.Blank where
  lineBreak level := by
    simp [Spacing.indented, isSpace]
  afterKey := ⟨[' '], rfl, rfl⟩

structure MemberWritten (spacing : Spacing) (level : Nat) (member : String × Json)
    (form : List StringUnit × Form) : Prop where
  key : form.1 = printedUnits member.1
  value : Written form.2 (write spacing level member.2)

section Spaced

variable {spacing : Spacing} {level : Nat}

theorem exists_itemPieces (hspacing : spacing.Blank) {items : List Json} {forms : List Form}
    (hitems : List.Forall₂ (fun item form => Written form (write spacing level item)) items forms)
    {after : List Char} (hafter : after.all isSpace = true) {form : Form} {cs : List Char}
    (h : Written form cs) :
    exists first more, (forall piece, piece ∈ first :: more -> Written piece.1 piece.2) ∧
      (first :: more).map Prod.fst = form :: forms ∧
      joinSegments [','] ((first :: more).map Prod.snd) =
        cs ++ (writeItems spacing level items ++ after) := by
  induction hitems generalizing form cs with
  | nil =>
      exact ⟨(form, cs ++ after), [],
        List.forall_mem_singleton.mpr (written_append_blanks h hafter), rfl, rfl⟩
  | cons hnext _hrest ih =>
      rename_i next nextForm items forms
      rcases ih (blanks_append_written hnext (hspacing.lineBreak level)) with
        ⟨second, more, hpieces, hforms, htexts⟩
      refine ⟨(form, cs), second :: more, List.forall_mem_cons.mpr ⟨h, hpieces⟩, ?_, ?_⟩
      · rw [List.map_cons, hforms]
      · rw [joinSegments_map_cons_cons, htexts, writeItems]
        simp only [List.append_assoc, List.cons_append, List.nil_append]

theorem exists_memberPieces (hspacing : spacing.Blank) {members : List (String × Json)}
    {forms : List (List StringUnit × Form)}
    (hmembers : List.Forall₂ (MemberWritten spacing level) members forms) {after : List Char}
    (hafter : after.all isSpace = true) {member : String × Json}
    {form : List StringUnit × Form} (h : MemberWritten spacing level member form) :
    exists first more,
      (forall piece, piece ∈ first :: more -> KeyWritten piece.key piece.keyText) ∧
      (forall piece, piece ∈ first :: more -> Written piece.value piece.valueText) ∧
      (first :: more).map MemberPiece.member = form :: forms ∧
      joinSegments [','] ((first :: more).map MemberPiece.text) =
        spacing.lineBreak level ++ (quote member.1 ++ (spacing.afterKey ++
          (write spacing level member.2 ++ (writeMembers spacing level members ++ after)))) := by
  rcases hspacing.afterKey with ⟨blanks, hcolon, hblanks⟩
  -- the text of one member, with what stands between it and the next separator
  have hkey : forall member, KeyWritten (printedUnits member)
      (spacing.lineBreak level ++ (quote member ++ [])) :=
    fun member => .mk (hspacing.lineBreak level) (quoted_quote member) rfl
  induction hmembers generalizing member form with
  | nil =>
      refine ⟨⟨form.1, spacing.lineBreak level ++ (quote member.1 ++ []), form.2,
        blanks ++ (write spacing level member.2 ++ after)⟩, [],
        List.forall_mem_singleton.mpr ?_,
        List.forall_mem_singleton.mpr (.spaced hblanks h.value hafter), rfl, ?_⟩
      · rw [h.key]
        exact hkey member.1
      · simp only [List.map_cons, List.map_nil, joinSegments, MemberPiece.text, hcolon,
          writeMembers, List.append_assoc, List.cons_append, List.nil_append]
  | cons hnext _hrest ih =>
      rcases ih hnext with ⟨second, more, hkeys, hvalues, hforms, htexts⟩
      refine ⟨⟨form.1, spacing.lineBreak level ++ (quote member.1 ++ []), form.2,
        blanks ++ write spacing level member.2⟩, second :: more,
        List.forall_mem_cons.mpr ⟨?_, hkeys⟩, List.forall_mem_cons.mpr ⟨?_, hvalues⟩, ?_, ?_⟩
      · rw [h.key]
        exact hkey member.1
      · exact blanks_append_written h.value hblanks
      · rw [List.map_cons, hforms]
        rfl
      · rw [joinSegments_map_cons_cons, htexts, writeMembers, MemberPiece.text, hcolon]
        simp only [List.append_assoc, List.cons_append, List.nil_append]

theorem written_array (hspacing : spacing.Blank) {items : List Json} {forms : List Form}
    (h : List.Forall₂ (fun item form => Written form (write spacing (level + 1) item))
      items forms) : Written (.array forms) (write spacing level (array items)) := by
  cases h with
  | nil => exact Written.noItems (List.all_nil (f := isSpace))
  | cons hitem hitems =>
      have hspaced := blanks_append_written hitem (hspacing.lineBreak (level + 1))
      rcases exists_itemPieces hspacing hitems (hspacing.lineBreak level) hspaced with
        ⟨first, more, hpieces, hforms, htexts⟩
      have hwritten := Written.items hpieces
      rw [hforms, htexts] at hwritten
      simpa only [write, List.append_assoc, List.cons_append, List.nil_append] using hwritten

theorem written_object (hspacing : spacing.Blank) {members : List (String × Json)}
    {forms : List (List StringUnit × Form)}
    (h : List.Forall₂ (MemberWritten spacing (level + 1)) members forms) :
    Written (.object forms) (write spacing level (object members)) := by
  cases h with
  | nil => exact Written.noMembers (List.all_nil (f := isSpace))
  | cons hmember hmembers =>
      rcases exists_memberPieces hspacing hmembers (hspacing.lineBreak level) hmember with
        ⟨first, more, hkeys, hvalues, hforms, htexts⟩
      have hwritten := Written.members hkeys hvalues
      rw [hforms, htexts] at hwritten
      simpa only [write, List.append_assoc, List.cons_append, List.nil_append] using hwritten

end Spaced

mutual

/-- A value whose numbers are integers is printed by the grammar, for its form. -/
theorem written_of_form? {spacing : Spacing} (hspacing : spacing.Blank) :
    forall (j : Json) {form : Form}, form? j = some form ->
      forall level, Written form (write spacing level j)
  | null, _, h, level => by
      cases h
      exact .null
  | bool true, _, h, level => by
      cases h
      exact .true
  | bool false, _, h, level => by
      cases h
      exact .false
  | number n, _, h, level => by
      rcases Option.map_eq_some_iff.mp h with ⟨text, htext, rfl⟩
      exact .number (numberWritten_write htext)
  | string s, _, h, level => by
      cases h
      exact .string (quoted_quote s)
  | array items, _, h, level => by
      rcases Option.map_eq_some_iff.mp h with ⟨forms, hforms, rfl⟩
      exact written_array hspacing (written_of_forms? hspacing items hforms (level + 1))
  | object members, _, h, level => by
      rcases Option.map_eq_some_iff.mp h with ⟨forms, hforms, rfl⟩
      exact written_object hspacing (written_of_memberForms? hspacing members hforms (level + 1))

theorem written_of_forms? {spacing : Spacing} (hspacing : spacing.Blank) :
    forall (items : List Json) {forms : List Form}, forms? items = some forms ->
      forall level, List.Forall₂ (fun item form => Written form (write spacing level item))
        items forms
  | [], _, h, level => by
      cases h
      exact .nil
  | item :: items, _, h, level => by
      rcases Option.bind_eq_some_iff.mp h with ⟨form, hform, h⟩
      rcases Option.bind_eq_some_iff.mp h with ⟨forms, hforms, h⟩
      cases h
      exact .cons (written_of_form? hspacing item hform level)
        (written_of_forms? hspacing items hforms level)

theorem written_of_memberForms? {spacing : Spacing} (hspacing : spacing.Blank) :
    forall (members : List (String × Json)) {forms : List (List StringUnit × Form)},
      memberForms? members = some forms ->
      forall level, List.Forall₂ (MemberWritten spacing level) members forms
  | [], _, h, level => by
      cases h
      exact .nil
  | (key, value) :: members, _, h, level => by
      rcases Option.bind_eq_some_iff.mp h with ⟨form, hform, h⟩
      rcases Option.bind_eq_some_iff.mp h with ⟨forms, hforms, h⟩
      cases h
      exact .cons ⟨rfl, written_of_form? hspacing value hform level⟩
        (written_of_memberForms? hspacing members hforms level)

end

theorem Form.read_write {spacing : Spacing} (hspacing : spacing.Blank) {j : Json} {form : Form}
    (h : form? j = some form) : Form.read (write spacing 0 j) = .ok form :=
  Form.read_written (written_of_form? hspacing j h 0)

/-!
## Values of forms
-/

/-- Values within which so many arrays and objects nest at most, and whose numbers are kept. -/
inductive Fits : Nat -> Json -> Prop
  | null {depth : Nat} : Fits depth null
  | bool {depth : Nat} {b : Bool} : Fits depth (bool b)
  | number {depth : Nat} {n : Number} (h : n.Kept) : Fits depth (number n)
  | string {depth : Nat} {s : String} : Fits depth (string s)
  | array {depth : Nat} {items : List Json} (h : forall item, item ∈ items -> Fits depth item) :
      Fits (depth + 1) (array items)
  | object {depth : Nat} {members : List (String × Json)}
      (h : forall member, member ∈ members -> Fits depth member.2) :
      Fits (depth + 1) (object members)

mutual

/-- A value with the members of its objects in the order of their keys. -/
def inKeyOrder : Json -> Json
  | array items => array (allInKeyOrder items)
  | object members => object (Keyed.ofPairs (membersInKeyOrder members))
  | j => j

def allInKeyOrder : List Json -> List Json
  | [] => []
  | item :: items => inKeyOrder item :: allInKeyOrder items

def membersInKeyOrder : List (String × Json) -> List (String × Json)
  | [] => []
  | (key, value) :: members => (key, inKeyOrder value) :: membersInKeyOrder members

end

theorem exists_forms_of_fits {depth : Nat} {items : List Json}
    (h : forall item, item ∈ items ->
      exists form, form? item = some form ∧ ofForm depth form = .ok (inKeyOrder item)) :
    exists forms, forms? items = some forms ∧ ofForms depth forms = .ok (allInKeyOrder items) := by
  induction items with
  | nil => exact ⟨[], rfl, rfl⟩
  | cons item items ih =>
      rcases List.forall_mem_cons.mp h with ⟨hitem, hitems⟩
      rcases hitem with ⟨form, hform, hvalue⟩
      rcases ih hitems with ⟨forms, hforms, hvalues⟩
      exists form :: forms
      constructor
      · simp [forms?, hform, hforms]
      · exact bind_eq_ok hvalue (bind_eq_ok hvalues rfl)

theorem exists_memberForms_of_fits {depth : Nat} {members : List (String × Json)}
    (h : forall member, member ∈ members ->
      exists form, form? member.2 = some form ∧ ofForm depth form = .ok (inKeyOrder member.2)) :
    exists forms, memberForms? members = some forms ∧
      ofMembers depth forms = .ok (membersInKeyOrder members) := by
  induction members with
  | nil => exact ⟨[], rfl, rfl⟩
  | cons member members ih =>
      rcases member with ⟨key, value⟩
      rcases List.forall_mem_cons.mp h with ⟨hmember, hmembers⟩
      rcases hmember with ⟨form, hform, hvalue⟩
      rcases ih hmembers with ⟨forms, hforms, hvalues⟩
      exists (printedUnits key, form) :: forms
      constructor
      · simp [memberForms?, hform, hforms]
      · rw [ofMembers, resolveString_printed]
        exact bind_eq_ok rfl (bind_eq_ok hvalue (bind_eq_ok hvalues rfl))

/-- The form of a value that fits stands for the value. -/
theorem exists_form_of_fits {depth : Nat} {j : Json} (h : Fits depth j) :
    exists form, form? j = some form ∧ ofForm depth form = .ok (inKeyOrder j) := by
  induction h with
  | null => exact ⟨.null, rfl, rfl⟩
  | bool => exact ⟨.bool _, rfl, rfl⟩
  | number hkept =>
      rcases hkept.value? with ⟨text, htext, hvalue⟩
      exists .number text
      constructor
      · rw [form?, htext]
        rfl
      · rw [ofForm, hvalue]
        rfl
  | string =>
      rename_i depth s
      exists .string (printedUnits s)
      constructor
      · rfl
      · rw [ofForm, resolveString_printed]
        rfl
  | array _h ih =>
      rcases exists_forms_of_fits ih with ⟨forms, hforms, hvalues⟩
      exists .array forms
      constructor
      · rw [form?, hforms]
        rfl
      · rw [ofForm, if_neg (Nat.succ_ne_zero _)]
        exact bind_eq_ok hvalues rfl
  | object _h ih =>
      rcases exists_memberForms_of_fits ih with ⟨forms, hforms, hvalues⟩
      exists .object forms
      constructor
      · rw [form?, hforms]
        rfl
      · rw [ofForm, if_neg (Nat.succ_ne_zero _)]
        exact bind_eq_ok hvalues rfl

/-- A printed value that fits is read back, in the order of its keys. -/
theorem read_write {spacing : Spacing} (hspacing : spacing.Blank) {j : Json}
    (h : Fits depthLimit j) : read (String.ofList (write spacing 0 j)) = .ok (inKeyOrder j) := by
  rcases exists_form_of_fits h with ⟨form, hform, hvalue⟩
  rw [read, String.toList_ofList, Form.read_write hspacing hform]
  exact hvalue

theorem read_pretty {j : Json} (h : Fits depthLimit j) : read j.pretty = .ok (inKeyOrder j) :=
  read_write blank_indented h

end Json
end AnalysisHarness
