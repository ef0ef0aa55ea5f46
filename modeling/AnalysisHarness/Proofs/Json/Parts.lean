import AnalysisHarness.Proofs.Json.Meaning

/-!
# The parts of JSON texts

The texts of arrays and objects are taken apart into the texts of their items and members. Texts of
numbers are what is left without the spaces around them.
-/

namespace AnalysisHarness
namespace Json

open Text

inductive Spaced (cs : List Char) : List Char -> Prop
  | mk {before after : List Char} (hbefore : before.all isSpace = true)
      (hafter : after.all isSpace = true) : Spaced cs (before ++ (cs ++ after))

theorem Spaced.refl (cs : List Char) : Spaced cs cs := by
  have hspaced := @Spaced.mk cs [] [] rfl rfl
  rw [List.append_nil, List.nil_append] at hspaced
  exact hspaced

theorem Spaced.around {cs text before after : List Char} (h : Spaced cs text)
    (hbefore : before.all isSpace = true) (hafter : after.all isSpace = true) :
    Spaced cs (before ++ (text ++ after)) := by
  cases h with
  | mk hfirst hlast =>
      rename_i first last
      have houter : (before ++ first).all isSpace = true := by
        rw [List.all_append, hbefore, hfirst, Bool.and_self]
      have hinner : (last ++ after).all isSpace = true := by
        rw [List.all_append, hlast, hafter, Bool.and_self]
      have hspaced := @Spaced.mk cs _ _ houter hinner
      simp only [List.append_assoc] at hspaced ⊢
      exact hspaced

theorem Spaced.written {form : Form} {cs text : List Char} (h : Spaced cs text)
    (hwritten : Written form cs) : Written form text := by
  cases h with
  | mk hbefore hafter => exact .spaced hbefore hwritten hafter

structure ArrayText (items : List (Form × List Char)) (text : List Char) : Prop where
  nonempty : items ≠ []
  written : forall item, item ∈ items -> Written item.1 item.2
  spaced : Spaced ('[' :: (joinSegments [','] (items.map Prod.snd) ++ [']'])) text

structure ObjectText (members : List MemberPiece) (text : List Char) : Prop where
  nonempty : members ≠ []
  keys : forall piece, piece ∈ members -> KeyWritten piece.key piece.keyText
  written : forall piece, piece ∈ members -> Written piece.value piece.valueText
  spaced : Spaced ('\x7b' :: (joinSegments [','] (members.map MemberPiece.text) ++ ['\x7d'])) text

theorem ArrayText.written_array {items : List (Form × List Char)} {text : List Char}
    (h : ArrayText items text) : Written (.array (items.map Prod.fst)) text := by
  rcases h with ⟨hsome, hitems, hspaced⟩
  cases items with
  | nil => exact absurd rfl hsome
  | cons first more => exact hspaced.written (.items hitems)

theorem ObjectText.written_object {members : List MemberPiece} {text : List Char}
    (h : ObjectText members text) : Written (.object (members.map MemberPiece.member)) text := by
  rcases h with ⟨hsome, hkeys, hvalues, hspaced⟩
  cases members with
  | nil => exact absurd rfl hsome
  | cons first more => exact hspaced.written (.members hkeys hvalues)

/-!
## Taking texts apart
-/

theorem exists_token {t : NumberText} {text : List Char} (h : Written (.number t) text) :
    exists token, NumberWritten t token ∧ Spaced token text := by
  generalize hform : Form.number t = form at h
  induction h with
  | number hnumber =>
      cases hform
      exact ⟨_, hnumber, .refl _⟩
  | spaced hbefore _ hafter ih =>
      rcases ih hform with ⟨token, htoken, hspaced⟩
      exact ⟨token, htoken, hspaced.around hbefore hafter⟩
  | _ => cases hform

theorem exists_arrayText {forms : List Form} {text : List Char} (h : Written (.array forms) text)
    (hsome : forms ≠ []) : exists items, forms = items.map Prod.fst ∧ ArrayText items text := by
  generalize hform : Form.array forms = form at h
  induction h with
  | noItems _ =>
      cases hform
      exact absurd rfl hsome
  | items hitems _ =>
      cases hform
      exact ⟨_, rfl, List.cons_ne_nil _ _, hitems, .refl _⟩
  | spaced hbefore _ hafter ih =>
      rcases ih hform with ⟨items, hforms, hitems, hwritten, hspaced⟩
      exact ⟨items, hforms, hitems, hwritten, hspaced.around hbefore hafter⟩
  | _ => cases hform

theorem exists_objectText {forms : List (List StringUnit × Form)} {text : List Char}
    (h : Written (.object forms) text) (hsome : forms ≠ []) :
    exists members, forms = members.map MemberPiece.member ∧ ObjectText members text := by
  generalize hform : Form.object forms = form at h
  induction h with
  | noMembers _ =>
      cases hform
      exact absurd rfl hsome
  | members hkeys hvalues _ =>
      cases hform
      exact ⟨_, rfl, List.cons_ne_nil _ _, hkeys, hvalues, .refl _⟩
  | spaced hbefore _ hafter ih =>
      rcases ih hform with ⟨members, hforms, hmembers, hkeys, hwritten, hspaced⟩
      exact ⟨members, hforms, hmembers, hkeys, hwritten, hspaced.around hbefore hafter⟩
  | _ => cases hform

/-!
## Members of objects
-/

/-- The last member with a key in the text of an object. -/
def LastMember (key : String) (members : List MemberPiece) (piece : MemberPiece) : Prop :=
  Last (fun piece => resolveString piece.key = some key) members piece

theorem forall₂_map_member (members : List MemberPiece) :
    List.Forall₂ (fun piece form => MemberPiece.member piece = form) members
      (members.map MemberPiece.member) := by
  rw [List.forall₂_map_right_iff, List.forall₂_same]
  intro piece _hmem
  rfl

theorem resolve_key_iff {key : String} {piece : MemberPiece} {form : List StringUnit × Form}
    (h : piece.member = form) :
    resolveString piece.key = some key <-> resolveString form.1 = some key := by
  rw [← h, MemberPiece.member]

theorem hasMember_of_lastMember {key : String} {members : List MemberPiece} {piece : MemberPiece}
    (h : LastMember key members piece) :
    HasMember key (.object (members.map MemberPiece.member)) piece.value := by
  rcases Last.transport (forall₂_map_member members) resolve_key_iff h with ⟨_, hlast, rfl⟩
  exact .mk hlast

theorem exists_lastMember {key : String} {form part : Form} {text : List Char}
    (h : HasMember key form part) (hwritten : Written form text) :
    exists members piece, ObjectText members text ∧ LastMember key members piece ∧
      piece.value = part := by
  cases h with
  | mk hlast =>
      rcases exists_objectText hwritten (List.ne_nil_of_mem hlast.mem) with
        ⟨members, rfl, hmembers⟩
      rcases hlast.transport (forall₂_map_member members).flip
        (fun hmember => (resolve_key_iff hmember).symm) with ⟨piece, hpiece, hmember⟩
      exact ⟨members, piece, hmembers, hpiece, congrArg Prod.snd hmember⟩

/-!
## Parts and their values
-/

def Part (form : Form) (text : List Char) (j : Json) : Prop :=
  Written form text ∧ exists depth, Means depth form j

theorem exists_part_of_denotes {text : String} {j : Json} (h : Denotes text j) :
    exists form, Part form text.toList j := by
  rcases h with ⟨form, hwritten, hmeans⟩
  exact ⟨form, hwritten, _, hmeans⟩

namespace Part

variable {form : Form} {text : List Char} {j value : Json} {key : String}

/-- What a member in the text of an object stands for is the value under its key. -/
theorem member?_of_lastMember (h : Part form text j) {members : List MemberPiece}
    {piece : MemberPiece} (hmembers : ObjectText members text)
    (hpiece : LastMember key members piece) :
    exists value, j.member? key = some value ∧ Part piece.value piece.valueText value := by
  rcases h with ⟨hwritten, depth, hmeans⟩
  cases eq_of_written hwritten hmembers.written_object
  rcases member?_of_hasMember hmeans (hasMember_of_lastMember hpiece) with
    ⟨value, inner, hvalue, hinner⟩
  exact ⟨value, hvalue, hmembers.written piece hpiece.mem, inner, hinner⟩

theorem exists_lastMember (h : Part form text j) (hvalue : j.member? key = some value) :
    exists members piece, ObjectText members text ∧ LastMember key members piece ∧
      Part piece.value piece.valueText value := by
  rcases h with ⟨hwritten, depth, hmeans⟩
  rcases exists_hasMember hmeans hvalue with ⟨part, hpart, inner, hinner⟩
  rcases Json.exists_lastMember hpart hwritten with ⟨members, piece, hmembers, hpiece, rfl⟩
  exact ⟨members, piece, hmembers, hpiece, hmembers.written piece hpiece.mem, inner, hinner⟩

theorem forall₂_of_means {depth : Nat} {items : List (Form × List Char)} {values : List Json}
    (hwritten : forall item, item ∈ items -> Written item.1 item.2)
    (h : List.Forall₂ (Means depth) (items.map Prod.fst) values) :
    List.Forall₂ (fun item value => Part item.1 item.2 value) items values := by
  rw [List.forall₂_map_left_iff] at h
  induction h with
  | nil => exact .nil
  | cons hhead _htail ih =>
      rcases List.forall_mem_cons.mp hwritten with ⟨hfirst, hmore⟩
      exact .cons ⟨hfirst, _, hhead⟩ (ih hmore)

theorem values_of_arrayText (h : Part form text j) {items : List (Form × List Char)}
    (hitems : ArrayText items text) :
    exists values, j = .array values ∧
      List.Forall₂ (fun item value => Part item.1 item.2 value) items values := by
  rcases h with ⟨hwritten, depth, hmeans⟩
  cases eq_of_written hwritten hitems.written_array
  cases hmeans with
  | array hvalues =>
      exact ⟨_, rfl, forall₂_of_means hitems.written (forall₂_of_allMean hvalues)⟩

theorem exists_arrayText {values : List Json} (h : Part form text (.array values))
    (hsome : values ≠ []) :
    exists items, ArrayText items text ∧
      List.Forall₂ (fun item value => Part item.1 item.2 value) items values := by
  rcases h with ⟨hwritten, depth, hmeans⟩
  cases hmeans with
  | array hvalues =>
      have hforms := forall₂_of_allMean hvalues
      have hlength := hforms.length_eq
      rcases Json.exists_arrayText hwritten (List.ne_nil_of_length_pos (by
        rw [hlength]
        exact List.length_pos_iff.mpr hsome)) with ⟨items, rfl, hitems⟩
      exact ⟨items, hitems, forall₂_of_means hitems.written hforms⟩

end Part

end Json
end AnalysisHarness
