import AnalysisHarness.Proofs.Json.Grammar

/-!
# Reading what the grammar writes

Whatever the grammar writes for a form is read as that form. What follows a value matters only to
numbers, and only where it prolongs the last of them.
-/

namespace AnalysisHarness
namespace Json

open Text

/-!
## Spaces
-/

theorem skipSpace_append {blanks : List Char} (h : blanks.all isSpace = true) (cs : List Char) :
    skipSpace (blanks ++ cs) = skipSpace cs := by
  unfold skipSpace
  exact List.dropWhile_append_of_pos (List.all_eq_true.mp h)

theorem skipSpace_blanks_cons {blanks : List Char} (h : blanks.all isSpace = true) {c : Char}
    (hc : isSpace c = false) (cs : List Char) : skipSpace (blanks ++ c :: cs) = c :: cs := by
  rw [skipSpace_append h]
  simp [skipSpace, hc]

theorem endsNumber_blanks_append {blanks : List Char} (h : blanks.all isSpace = true)
    {cs : List Char} (hends : endsNumber cs = true) : endsNumber (blanks ++ cs) = true := by
  cases blanks with
  | nil => exact hends
  | cons blank blanks =>
      have hblank := (List.all_eq_true.mp h) blank List.mem_cons_self
      simp only [isSpace, Bool.or_eq_true, beq_iff_eq] at hblank
      rcases hblank with ((rfl | rfl) | rfl) | rfl <;> rfl

theorem skipSpace_skipSpace (cs : List Char) : skipSpace (skipSpace cs) = skipSpace cs := by
  have hblanks : (cs.takeWhile isSpace).all isSpace = true := List.all_takeWhile
  have hskip := skipSpace_append hblanks (cs.dropWhile isSpace)
  rw [List.takeWhile_append_dropWhile] at hskip
  exact hskip.symm

theorem readForm_congr {cs cs' : List Char} (h : skipSpace cs = skipSpace cs') (fuel : Nat) :
    readForm fuel cs = readForm fuel cs' := by
  cases fuel with
  | zero => rfl
  | succ fuel => rw [readForm, readForm, h]

theorem readItems_congr {cs cs' : List Char} (h : skipSpace cs = skipSpace cs') (fuel : Nat) :
    readItems fuel cs = readItems fuel cs' := by
  cases fuel with
  | zero => rfl
  | succ fuel =>
      show (readForm fuel cs >>= _) = (readForm fuel cs' >>= _)
      rw [readForm_congr h]

theorem readMembers_congr {cs cs' : List Char} (h : skipSpace cs = skipSpace cs') (fuel : Nat) :
    readMembers fuel cs = readMembers fuel cs' := by
  cases fuel with
  | zero => rfl
  | succ fuel => rw [readMembers, readMembers, h]

/-!
## Reading values
-/

theorem readItems_closing {cs rest : List Char} (h : skipSpace cs = ']' :: rest) (fuel : Nat) :
    readItems fuel cs = .error .malformed := by
  rw [readItems_congr (show skipSpace cs = skipSpace (']' :: rest) from h)]
  cases fuel with
  | zero => rfl
  | succ fuel => cases fuel <;> rfl

theorem readMembers_closing {cs rest : List Char} (h : skipSpace cs = '\x7d' :: rest)
    (fuel : Nat) : readMembers fuel cs = .error .malformed := by
  rw [readMembers_congr (show skipSpace cs = skipSpace ('\x7d' :: rest) from h)]
  cases fuel <;> rfl

theorem readForm_bracket (fuel : Nat) (cs : List Char) :
    readForm (fuel + 1) ('[' :: cs) =
      match skipSpace cs with
      | ']' :: rest => .ok (.array [], rest)
      | rest => readItems fuel rest >>= fun items => pure (.array items.1, items.2) :=
  rfl

theorem readForm_brace (fuel : Nat) (cs : List Char) :
    readForm (fuel + 1) ('\x7b' :: cs) =
      match skipSpace cs with
      | '\x7d' :: rest => .ok (.object [], rest)
      | rest => readMembers fuel rest >>= fun members => pure (.object members.1, members.2) :=
  rfl

theorem readForm_array {fuel : Nat} {cs rest : List Char} {items : List Form}
    (h : readItems fuel cs = .ok (items, rest)) :
    readForm (fuel + 1) ('[' :: cs) = .ok (.array items, rest) := by
  have hitems : forall tail, skipSpace cs ≠ ']' :: tail := by
    intro tail hclosing
    rw [readItems_closing hclosing] at h
    cases h
  rw [readForm_bracket]
  simp only
  rw [readItems_congr (skipSpace_skipSpace cs)]
  exact bind_eq_ok h rfl

theorem readForm_object {fuel : Nat} {cs rest : List Char}
    {members : List (List StringUnit × Form)} (h : readMembers fuel cs = .ok (members, rest)) :
    readForm (fuel + 1) ('\x7b' :: cs) = .ok (.object members, rest) := by
  have hmembers : forall tail, skipSpace cs ≠ '\x7d' :: tail := by
    intro tail hclosing
    rw [readMembers_closing hclosing] at h
    cases h
  rw [readForm_brace]
  simp only
  rw [readMembers_congr (skipSpace_skipSpace cs)]
  exact bind_eq_ok h rfl

def beginsOther (c : Char) : Bool :=
  isSpace c || ['n', 't', 'f', '"', '[', '\x7b'].contains c

theorem beginsOther_of_isDigit {c : Char} (h : c.isDigit = true) : beginsOther c = false := by
  cases hother : beginsOther c with
  | false => rfl
  | true =>
      simp only [beginsOther, isSpace, List.contains_cons, List.contains_nil, Bool.or_eq_true,
        beq_iff_eq, Bool.or_false] at hother
      rcases hother with (((rfl | rfl) | rfl) | rfl) | rfl | rfl | rfl | rfl | rfl | rfl <;>
        exact absurd h (by decide)

theorem beginsOther_number {t : NumberText} {text : List Char} (h : NumberWritten t text) :
    exists c cs, text = c :: cs ∧ beginsOther c = false := by
  rcases t with ⟨negative, whole, fraction, exponent⟩
  cases h with
  | mk hwhole _hzero _hfraction _hexponent =>
      cases negative with
      | true => exact ⟨'-', _, rfl, rfl⟩
      | false =>
          cases whole with
          | nil => exact absurd rfl hwhole.nonempty
          | cons d ds =>
              exact ⟨d, _, rfl, beginsOther_of_isDigit (hwhole.digits d List.mem_cons_self)⟩

theorem readForm_number {c : Char} (hc : beginsOther c = false) (fuel : Nat)
    {cs rest : List Char} {text : NumberText} (h : readNumber (c :: cs) = .ok (text, rest)) :
    readForm (fuel + 1) (c :: cs) = .ok (.number text, rest) := by
  rw [beginsOther, Bool.or_eq_false_iff] at hc
  have hskip : skipSpace (c :: cs) = c :: cs := List.dropWhile_cons_of_neg (by simp [hc.1])
  have hother : forall d, ['n', 't', 'f', '"', '[', '\x7b'].contains d = true -> c ≠ d := by
    intro d hd heq
    rw [heq, hd] at hc
    exact absurd hc.2 (by decide)
  rw [readForm, hskip]
  split
  case h_7 => exact bind_eq_ok h rfl
  all_goals
    rename_i hstart
    exact absurd (List.cons.inj hstart).1 (hother _ (by decide))

/--
A text is read as a form, whatever follows that does not prolong a number. Spaces at its end may be
left over. The length of the text bounds the number of values and members in it.
-/
def Reads (form : Form) (cs : List Char) : Prop :=
  forall fuel rest, cs.length < fuel -> endsNumber rest = true ->
    exists blanks, blanks.all isSpace = true ∧
      readForm fuel (cs ++ rest) = .ok (form, blanks ++ rest)

theorem reads_of_succ {form : Form} {cs : List Char}
    (h : forall fuel rest, cs.length ≤ fuel -> endsNumber rest = true ->
      readForm (fuel + 1) (cs ++ rest) = .ok (form, rest)) : Reads form cs := by
  intro fuel rest hfuel hends
  cases fuel with
  | zero => exact absurd hfuel (Nat.not_lt_zero _)
  | succ fuel => exact ⟨[], rfl, h fuel rest (Nat.le_of_lt_succ hfuel) hends⟩

theorem reads_number {t : NumberText} {cs : List Char} (h : NumberWritten t cs) :
    Reads (.number t) cs := by
  apply reads_of_succ
  intro fuel rest _hfuel hends
  rcases beginsOther_number h with ⟨c, tail, rfl, hc⟩
  exact readForm_number hc fuel (readNumber_written h hends)

theorem reads_string {units : List StringUnit} {cs : List Char} (h : Quoted units cs) :
    Reads (.string units) cs := by
  apply reads_of_succ
  intro fuel rest _hfuel _hends
  rcases readString_quoted h rest with ⟨inner, hquote, hread⟩
  rw [hquote]
  exact bind_eq_ok hread rfl

theorem reads_spaced {form : Form} {before cs after : List Char}
    (hbefore : before.all isSpace = true) (h : Reads form cs) (hafter : after.all isSpace = true) :
    Reads form (before ++ (cs ++ after)) := by
  intro fuel rest hfuel hends
  simp only [List.length_append] at hfuel
  rcases h fuel (after ++ rest) (by omega) (endsNumber_blanks_append hafter hends) with
    ⟨blanks, hblanks, hread⟩
  refine ⟨blanks ++ after, by rw [List.all_append, hblanks, hafter]; rfl, ?_⟩
  rw [List.append_assoc, List.append_assoc, readForm_congr (skipSpace_append hbefore _), hread,
    List.append_assoc]

theorem reads_noItems {blanks : List Char} (h : blanks.all isSpace = true) :
    Reads (.array []) ('[' :: (blanks ++ [']'])) := by
  apply reads_of_succ
  intro fuel rest _hfuel _hends
  rw [List.cons_append, List.append_assoc, List.singleton_append, readForm_bracket,
    skipSpace_blanks_cons h rfl]
  rfl

theorem reads_noMembers {blanks : List Char} (h : blanks.all isSpace = true) :
    Reads (.object []) ('\x7b' :: (blanks ++ ['\x7d'])) := by
  apply reads_of_succ
  intro fuel rest _hfuel _hends
  rw [List.cons_append, List.append_assoc, List.singleton_append, readForm_brace,
    skipSpace_blanks_cons h rfl]
  rfl

theorem readItems_item {fuel : Nat} {cs rest : List Char} {item : Form}
    (h : readForm fuel cs = .ok (item, rest)) :
    readItems (fuel + 1) cs =
      match skipSpace rest with
      | ',' :: rest => readItems fuel rest >>= fun later => pure (item :: later.1, later.2)
      | ']' :: rest => pure ([item], rest)
      | _ => .error .malformed := by
  show (readForm fuel cs >>= _) = _
  rw [h]
  rfl

theorem readItems_joined {first : Form × List Char} {more : List (Form × List Char)}
    (h : forall piece, piece ∈ first :: more -> Reads piece.1 piece.2) (rest : List Char)
    {fuel : Nat}
    (hfuel : (joinSegments [','] ((first :: more).map Prod.snd)).length + 1 < fuel) :
    readItems fuel (joinSegments [','] ((first :: more).map Prod.snd) ++ ']' :: rest) =
      .ok ((first :: more).map Prod.fst, rest) := by
  induction more generalizing first fuel with
  | nil =>
      cases fuel with
      | zero => exact absurd hfuel (Nat.not_lt_zero _)
      | succ fuel =>
          simp only [List.map_cons, List.map_nil, joinSegments] at hfuel ⊢
          rcases h first List.mem_cons_self fuel (']' :: rest) (by omega) rfl with
            ⟨blanks, hblanks, hread⟩
          rw [readItems_item hread, skipSpace_blanks_cons hblanks rfl]
          rfl
  | cons second more ih =>
      cases fuel with
      | zero => exact absurd hfuel (Nat.not_lt_zero _)
      | succ fuel =>
          rcases List.forall_mem_cons.mp h with ⟨hfirst, hmore⟩
          rw [joinSegments_map_cons_cons] at hfuel ⊢
          simp only [List.append_assoc, List.length_append, List.cons_append, List.nil_append,
            List.length_cons] at hfuel ⊢
          have hlater := @ih second hmore fuel (by omega)
          rcases hfirst fuel (',' :: (joinSegments [','] ((second :: more).map Prod.snd) ++
            ']' :: rest)) (by omega) rfl with ⟨blanks, hblanks, hread⟩
          rw [readItems_item hread, skipSpace_blanks_cons hblanks rfl]
          exact bind_eq_ok hlater rfl

/-- How members go on after one that has been read: what follows decides whether there are more. -/
def membersAfter (fuel : Nat) (member : List StringUnit × Form) :
    List Char -> Except Fault (List (List StringUnit × Form) × List Char)
  | ',' :: rest => readMembers fuel rest >>= fun later => pure (member :: later.1, later.2)
  | '\x7d' :: rest => pure ([member], rest)
  | _ => .error .malformed

theorem readMembers_piece {piece : MemberPiece} (hkey : KeyWritten piece.key piece.keyText)
    (hvalue : Reads piece.value piece.valueText) {fuel : Nat}
    (hfuel : piece.valueText.length < fuel) {tail : List Char} (hends : endsNumber tail = true) :
    readMembers (fuel + 1) (piece.text ++ tail) =
      membersAfter fuel piece.member (skipSpace tail) := by
  rcases piece with ⟨key, keyText, value, valueText⟩
  dsimp only [MemberPiece.text, MemberPiece.member] at hkey hvalue hfuel ⊢
  cases hkey with
  | mk hbefore hquoted hafter =>
      rename_i before quoted after
      rcases readString_quoted hquoted (after ++ ':' :: (valueText ++ tail)) with
        ⟨cs, hquote, hread⟩
      rcases hvalue fuel tail hfuel hends with ⟨blanks, hblanks, hform⟩
      have hstart : skipSpace (before ++ (quoted ++ (after ++ ':' :: (valueText ++ tail)))) =
          '"' :: cs := by
        rw [hquote, skipSpace_blanks_cons hbefore rfl]
      have hcolon : skipSpace (after ++ ':' :: (valueText ++ tail)) =
          ':' :: (valueText ++ tail) := by
        rw [skipSpace_blanks_cons hafter rfl]
      have hend := skipSpace_append hblanks tail
      simp only [List.append_assoc, List.cons_append]
      rw [readMembers, hstart]
      simp only [hread, hcolon, hform, hend, bind, Except.bind]
      rfl

theorem readMembers_joined {first : MemberPiece} {more : List MemberPiece}
    (hkeys : forall piece, piece ∈ first :: more -> KeyWritten piece.key piece.keyText)
    (h : forall piece, piece ∈ first :: more -> Reads piece.value piece.valueText)
    (rest : List Char) {fuel : Nat}
    (hfuel : (joinSegments [','] ((first :: more).map MemberPiece.text)).length < fuel) :
    readMembers fuel (joinSegments [','] ((first :: more).map MemberPiece.text) ++ '\x7d' :: rest) =
      .ok ((first :: more).map MemberPiece.member, rest) := by
  induction more generalizing first fuel with
  | nil =>
      cases fuel with
      | zero => exact absurd hfuel (Nat.not_lt_zero _)
      | succ fuel =>
          simp only [List.map_cons, List.map_nil, joinSegments, MemberPiece.length_text]
            at hfuel ⊢
          rw [readMembers_piece (hkeys first List.mem_cons_self) (h first List.mem_cons_self)
            (by omega) rfl]
          rfl
  | cons second more ih =>
      cases fuel with
      | zero => exact absurd hfuel (Nat.not_lt_zero _)
      | succ fuel =>
          rcases List.forall_mem_cons.mp hkeys with ⟨hfirstKey, hmoreKeys⟩
          rcases List.forall_mem_cons.mp h with ⟨hfirst, hmore⟩
          rw [joinSegments_map_cons_cons] at hfuel ⊢
          simp only [List.append_assoc, List.length_append, List.singleton_append,
            List.length_cons, MemberPiece.length_text] at hfuel ⊢
          have hlater := @ih second hmoreKeys hmore fuel (by omega)
          rw [readMembers_piece hfirstKey hfirst (by omega) rfl]
          exact bind_eq_ok hlater rfl

theorem reads_items {first : Form × List Char} {more : List (Form × List Char)}
    (h : forall piece, piece ∈ first :: more -> Reads piece.1 piece.2) :
    Reads (.array ((first :: more).map Prod.fst))
      ('[' :: (joinSegments [','] ((first :: more).map Prod.snd) ++ [']'])) := by
  apply reads_of_succ
  intro fuel rest hfuel _hends
  rw [List.length_cons, List.length_append, List.length_singleton] at hfuel
  rw [List.cons_append, List.append_assoc, List.singleton_append]
  exact readForm_array (readItems_joined h rest (by omega))

theorem reads_members {first : MemberPiece} {more : List MemberPiece}
    (hkeys : forall piece, piece ∈ first :: more -> KeyWritten piece.key piece.keyText)
    (h : forall piece, piece ∈ first :: more -> Reads piece.value piece.valueText) :
    Reads (.object ((first :: more).map MemberPiece.member))
      ('\x7b' :: (joinSegments [','] ((first :: more).map MemberPiece.text) ++ ['\x7d'])) := by
  apply reads_of_succ
  intro fuel rest hfuel _hends
  rw [List.length_cons, List.length_append, List.length_singleton] at hfuel
  rw [List.cons_append, List.append_assoc, List.singleton_append]
  exact readForm_object (readMembers_joined hkeys h rest (by omega))

/-- What is written for a form is read as it. -/
theorem reads_of_written {form : Form} {cs : List Char} (h : Written form cs) : Reads form cs := by
  induction h with
  | null => exact reads_of_succ fun _ _ _ _ => rfl
  | true => exact reads_of_succ fun _ _ _ _ => rfl
  | false => exact reads_of_succ fun _ _ _ _ => rfl
  | number h => exact reads_number h
  | string h => exact reads_string h
  | noItems hblanks => exact reads_noItems hblanks
  | items _ ih => exact reads_items ih
  | noMembers hblanks => exact reads_noMembers hblanks
  | members hkeys _ ih => exact reads_members hkeys ih
  | spaced hbefore _ hafter ih => exact reads_spaced hbefore ih hafter

/-- A whole text that is written for a form is read as it. -/
theorem Form.read_written {form : Form} {text : List Char} (h : Written form text) :
    Form.read text = .ok form := by
  rcases reads_of_written h (text.length + 1) [] (by omega) rfl with ⟨blanks, hblanks, hread⟩
  rw [List.append_nil] at hread
  unfold Form.read
  refine bind_eq_ok hread ?_
  have hend : skipSpace (blanks ++ []) = [] := by
    rw [skipSpace_append hblanks]
    rfl
  dsimp only
  rw [hend]
  rfl

theorem eq_of_written {form form' : Form} {text : List Char} (h : Written form text)
    (h' : Written form' text) : form = form' :=
  Except.ok.inj ((Form.read_written h).symm.trans (Form.read_written h'))

end Json
end AnalysisHarness
