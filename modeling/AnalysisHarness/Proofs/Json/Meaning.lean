import AnalysisHarness.Json.Value
import AnalysisHarness.Proofs.Json.Soundness
import AnalysisHarness.Proofs.Text.Entries

/-!
# What JSON texts stand for

A form stands for a value if its numbers are within range, its strings are made of characters and
its arrays and objects do not nest too deeply. Of the members of an object with the same key the
last one counts. Reading a text gives the value that its form stands for.
-/

namespace AnalysisHarness
namespace Json

open Text

mutual

/-- A form, inside which so many arrays and objects may nest, stands for a value. -/
inductive Means : Nat -> Form -> Json -> Prop
  | null {depth : Nat} : Means depth .null .null
  | bool {depth : Nat} {b : Bool} : Means depth (.bool b) (.bool b)
  | number {depth : Nat} {t : NumberText} {n : Number} (h : t.value? = some n) :
      Means depth (.number t) (.number n)
  | string {depth : Nat} {units : List StringUnit} {s : String} (h : resolveString units = some s) :
      Means depth (.string units) (.string s)
  | array {depth : Nat} {forms : List Form} {items : List Json} (h : AllMean depth forms items) :
      Means (depth + 1) (.array forms) (.array items)
  | object {depth : Nat} {forms : List (List StringUnit × Form)} {members : List (String × Json)}
      (h : MembersMean depth forms members) :
      Means (depth + 1) (.object forms) (.object (Keyed.ofPairs members))

inductive AllMean : Nat -> List Form -> List Json -> Prop
  | nil {depth : Nat} : AllMean depth [] []
  | cons {depth : Nat} {form : Form} {item : Json} {forms : List Form} {items : List Json}
      (h : Means depth form item) (hmore : AllMean depth forms items) :
      AllMean depth (form :: forms) (item :: items)

inductive MembersMean : Nat -> List (List StringUnit × Form) -> List (String × Json) -> Prop
  | nil {depth : Nat} : MembersMean depth [] []
  | cons {depth : Nat} {units : List StringUnit} {key : String} {form : Form} {value : Json}
      {forms : List (List StringUnit × Form)} {members : List (String × Json)}
      (hkey : resolveString units = some key) (h : Means depth form value)
      (hmore : MembersMean depth forms members) :
      MembersMean depth ((units, form) :: forms) ((key, value) :: members)

end

/-!
## Values of forms
-/

mutual

theorem means_of_ofForm : forall (form : Form) {depth : Nat} {j : Json},
    ofForm depth form = .ok j -> Means depth form j
  | .null, _, _, h => by
      cases h
      exact .null
  | .bool b, _, _, h => by
      cases h
      exact .bool
  | .number t, _, _, h => by
      rw [ofForm] at h
      split at h
      · rename_i hvalue
        cases h
        exact .number hvalue
      · cases h
  | .string units, _, _, h => by
      rw [ofForm] at h
      split at h
      · rename_i htext
        cases h
        exact .string htext
      · cases h
  | .array forms, depth, _, h => by
      rw [ofForm] at h
      cases depth with
      | zero => cases h
      | succ depth =>
          rcases exists_of_bind_eq_ok h with ⟨items, hitems, hend⟩
          cases hend
          exact .array (allMean_of_ofForms forms hitems)
  | .object forms, depth, _, h => by
      rw [ofForm] at h
      cases depth with
      | zero => cases h
      | succ depth =>
          rcases exists_of_bind_eq_ok h with ⟨members, hmembers, hend⟩
          cases hend
          exact .object (membersMean_of_ofMembers forms hmembers)

theorem allMean_of_ofForms : forall (forms : List Form) {depth : Nat} {items : List Json},
    ofForms depth forms = .ok items -> AllMean depth forms items
  | [], _, _, h => by
      cases h
      exact .nil
  | form :: forms, _, _, h => by
      rw [ofForms] at h
      rcases exists_of_bind_eq_ok h with ⟨item, hitem, hmore⟩
      rcases exists_of_bind_eq_ok hmore with ⟨items, hitems, hend⟩
      cases hend
      exact .cons (means_of_ofForm form hitem) (allMean_of_ofForms forms hitems)

theorem membersMean_of_ofMembers : forall (forms : List (List StringUnit × Form)) {depth : Nat}
    {members : List (String × Json)}, ofMembers depth forms = .ok members ->
      MembersMean depth forms members
  | [], _, _, h => by
      cases h
      exact .nil
  | (units, form) :: forms, _, _, h => by
      rw [ofMembers] at h
      split at h
      · rename_i key hkey
        rcases exists_of_bind_eq_ok h with ⟨name, hname, hvalued⟩
        cases hname
        rcases exists_of_bind_eq_ok hvalued with ⟨value, hvalue, hmore⟩
        rcases exists_of_bind_eq_ok hmore with ⟨members, hmembers, hend⟩
        cases hend
        exact .cons hkey (means_of_ofForm form hvalue) (membersMean_of_ofMembers forms hmembers)
      · cases h

end

mutual

theorem ofForm_of_means : forall (form : Form) {depth : Nat} {j : Json},
    Means depth form j -> ofForm depth form = .ok j
  | .null, _, _, h => by
      cases h
      rfl
  | .bool b, _, _, h => by
      cases h
      rfl
  | .number t, _, _, h => by
      cases h with
      | number hvalue => rw [ofForm, hvalue]
  | .string units, _, _, h => by
      cases h with
      | string htext => rw [ofForm, htext]
  | .array forms, _, _, h => by
      cases h with
      | array hitems =>
          rw [ofForm, if_neg (Nat.succ_ne_zero _)]
          exact bind_eq_ok (ofForms_of_allMean forms hitems) rfl
  | .object forms, _, _, h => by
      cases h with
      | object hmembers =>
          rw [ofForm, if_neg (Nat.succ_ne_zero _)]
          exact bind_eq_ok (ofMembers_of_membersMean forms hmembers) rfl

theorem ofForms_of_allMean : forall (forms : List Form) {depth : Nat} {items : List Json},
    AllMean depth forms items -> ofForms depth forms = .ok items
  | [], _, _, h => by
      cases h
      rfl
  | form :: forms, _, _, h => by
      cases h with
      | cons hitem hmore =>
          rw [ofForms]
          exact bind_eq_ok (ofForm_of_means form hitem)
            (bind_eq_ok (ofForms_of_allMean forms hmore) rfl)

theorem ofMembers_of_membersMean : forall (forms : List (List StringUnit × Form)) {depth : Nat}
    {members : List (String × Json)}, MembersMean depth forms members ->
      ofMembers depth forms = .ok members
  | [], _, _, h => by
      cases h
      rfl
  | (units, form) :: forms, _, _, h => by
      cases h with
      | cons hkey hvalue hmore =>
          rw [ofMembers, hkey]
          exact bind_eq_ok rfl (bind_eq_ok (ofForm_of_means form hvalue)
            (bind_eq_ok (ofMembers_of_membersMean forms hmore) rfl))

end

/-!
## Values of texts
-/

/-- A text of the grammar stands for a value. -/
def Denotes (text : String) (j : Json) : Prop :=
  exists form, Written form text.toList ∧ Means depthLimit form j

theorem read_eq_ok_iff {text : String} {j : Json} : read text = .ok j <-> Denotes text j := by
  constructor
  · intro h
    rcases exists_of_bind_eq_ok h with ⟨form, hform, hvalue⟩
    exact ⟨form, Form.read_eq_ok_iff.mp hform, means_of_ofForm form hvalue⟩
  · intro h
    rcases h with ⟨form, hwritten, hmeans⟩
    exact bind_eq_ok (Form.read_eq_ok_iff.mpr hwritten) (ofForm_of_means form hmeans)

theorem exists_error_iff {text : String} :
    (exists e, read text = .error e) <-> ¬exists j, Denotes text j := by
  constructor
  · rintro ⟨e, he⟩ ⟨j, hj⟩
    rw [read_eq_ok_iff.mpr hj] at he
    cases he
  · intro h
    cases hread : read text with
    | error e => exact ⟨e, rfl⟩
    | ok j => exact absurd ⟨j, read_eq_ok_iff.mp hread⟩ h

/-!
## Parts of values
-/

theorem forall₂_of_allMean {depth : Nat} {forms : List Form} {items : List Json}
    (h : AllMean depth forms items) : List.Forall₂ (Means depth) forms items := by
  induction forms generalizing items with
  | nil =>
      cases h
      exact .nil
  | cons form forms ih =>
      cases h with
      | cons hitem hmore => exact .cons hitem (ih hmore)

def MemberMeans (depth : Nat) (form : List StringUnit × Form) (member : String × Json) : Prop :=
  resolveString form.1 = some member.1 ∧ Means depth form.2 member.2

theorem forall₂_of_membersMean {depth : Nat} {forms : List (List StringUnit × Form)}
    {members : List (String × Json)} (h : MembersMean depth forms members) :
    List.Forall₂ (MemberMeans depth) forms members := by
  induction forms generalizing members with
  | nil =>
      cases h
      exact .nil
  | cons form forms ih =>
      cases h with
      | cons hkey hvalue hmore => exact .cons ⟨hkey, hvalue⟩ (ih hmore)

/-- An object has a member with a key, of which this is the last one. -/
inductive HasMember (key : String) : Form -> Form -> Prop
  | mk {members : List (List StringUnit × Form)} {units : List StringUnit} {form : Form}
      (h : Last (fun member => resolveString member.1 = some key) members (units, form)) :
      HasMember key (.object members) form

theorem memberMeans_key_iff {depth : Nat} {key : String} {form : List StringUnit × Form}
    {member : String × Json} (h : MemberMeans depth form member) :
    resolveString form.1 = some key <-> member.1 = key := by
  rw [h.1, Option.some.injEq]

/-- What an object has under a key is what the last member with the key stands for. -/
theorem exists_hasMember {depth : Nat} {form : Form} {j value : Json} {key : String}
    (h : Means depth form j) (hvalue : j.member? key = some value) :
    exists part, HasMember key form part ∧ exists inner, Means inner part value := by
  cases h with
  | object hmembers =>
      have hlast := Keyed.find?_ofPairs_eq_some_iff.mp hvalue
      rcases hlast.transport (forall₂_of_membersMean hmembers).flip
        (fun hmember => (memberMeans_key_iff hmember).symm) with
          ⟨⟨units, part⟩, hpart, _hkey, hmeans⟩
      exact ⟨part, .mk hpart, _, hmeans⟩
  | _ => cases hvalue

theorem member?_of_hasMember {depth : Nat} {form part : Form} {j : Json} {key : String}
    (h : Means depth form j) (hpart : HasMember key form part) :
    exists value inner, j.member? key = some value ∧ Means inner part value := by
  cases hpart with
  | mk hlast =>
      cases h with
      | object hmembers =>
          rcases hlast.transport (forall₂_of_membersMean hmembers) memberMeans_key_iff with
            ⟨⟨name, value⟩, hfound, _hkey, hmeans⟩
          cases hfound.holds
          exact ⟨value, _, Keyed.find?_ofPairs_eq_some_iff.mpr hfound, hmeans⟩

end Json
end AnalysisHarness
