import AnalysisHarness.Proofs.Json.Reading

/-!
# Whatever is read is written by the grammar

The reader accepts nothing that the grammar does not write: what it takes of a text is written for
the form that it answers. Together with the other direction, reading is the inverse of writing by
the grammar, and the form of a text is one only.
-/

namespace AnalysisHarness
namespace Json

open Text Decimal

/-!
## Strings
-/

theorem of_consUnit_eq_ok {u : StringUnit}
    {read : Except Fault (List StringUnit × List Char)} {units : List StringUnit}
    {rest : List Char} (h : consUnit u read = .ok (units, rest)) :
    exists more, read = .ok (more, rest) ∧ units = u :: more := by
  cases read with
  | error e => cases h
  | ok read =>
      cases h
      exact ⟨read.1, rfl, rfl⟩

theorem exists_written_of_consUnit {u : StringUnit} {first cs rest : List Char}
    {units : List StringUnit} (hfirst : UnitWritten u first)
    (ih : forall {units}, readString cs = .ok (units, rest) ->
      exists inner, UnitsWritten units inner ∧ cs = inner ++ '"' :: rest)
    (h : consUnit u (readString cs) = .ok (units, rest)) :
    exists inner, UnitsWritten units inner ∧ first ++ cs = inner ++ '"' :: rest := by
  rcases of_consUnit_eq_ok h with ⟨more, hmore, rfl⟩
  rcases ih hmore with ⟨inner, hwritten, rfl⟩
  exact ⟨first ++ inner, .more hfirst hwritten, (List.append_assoc first inner _).symm⟩

theorem exists_written_of_readString {cs rest : List Char} {units : List StringUnit}
    (h : readString cs = .ok (units, rest)) :
    exists inner, UnitsWritten units inner ∧ cs = inner ++ '"' :: rest := by
  induction cs using readString.induct generalizing units with
  | case1 => cases h
  | case2 cs =>
      cases h
      exact ⟨[], .none, rfl⟩
  | case3 a b c d cs hhex ih =>
      rw [readString, if_pos hhex] at h
      exact exists_written_of_consUnit (.code hhex) ih h
  | case4 a b c d cs hhex =>
      rw [readString, if_neg hhex] at h
      cases h
  | case5 letter cs hletter c hc ih =>
      rw [readString.eq_4 _ _ hletter, hc] at h
      exact exists_written_of_consUnit (.letter hc) ih h
  | case6 letter cs hletter hc =>
      rw [readString.eq_4 _ _ hletter, hc] at h
      cases h
  | case7 c cs hquote hcode hletter hlow =>
      rw [readString.eq_5 _ _ hquote hcode hletter, if_pos hlow] at h
      cases h
  | case8 c cs hquote _hcode _hletter hlow ih =>
      rcases not_or.mp hlow with ⟨hcontrol, hslash⟩
      rw [readString_plain hquote hslash hcontrol] at h
      exact exists_written_of_consUnit (.plain hquote hslash hcontrol) ih h

/-!
## Numbers
-/

theorem exists_written_of_readFractionPart {cs fraction rest : List Char}
    (h : readFractionPart cs = .ok (fraction, rest)) :
    exists text, FractionWritten fraction text ∧ cs = text ++ rest := by
  unfold readFractionPart at h
  split at h
  · rename_i cs
    cases hspan : spanDigits cs with
    | mk ds tail =>
        rw [hspan] at h
        dsimp only at h
        split at h
        · cases h
        · rename_i hsome
          cases h
          refine ⟨'.' :: fraction, .digits (numeral_of_spanDigits hspan hsome), ?_⟩
          rw [(of_spanDigits hspan).1, List.cons_append]
  · cases h
    exact ⟨[], .none, rfl⟩

theorem exists_written_of_readExponentPart {cs rest : List Char}
    {exponent : Option (Bool × List Char)} (h : readExponentPart cs = .ok (exponent, rest)) :
    exists text, ExponentWritten exponent text ∧ cs = text ++ rest := by
  cases cs with
  | nil =>
      cases h
      exact ⟨[], .none, rfl⟩
  | cons mark cs =>
      rw [readExponentPart] at h
      split at h
      · rename_i hmark
        cases hsign : readSign cs with
        | mk negative unsigned =>
            cases hspan : spanDigits unsigned with
            | mk ds tail =>
                rw [hsign] at h
                dsimp only at h
                rw [hspan] at h
                dsimp only at h
                split at h
                · cases h
                · rename_i hsome
                  cases h
                  rcases exists_written_of_readSign hsign with ⟨sign, hwritten, rfl⟩
                  refine ⟨mark :: (sign ++ ds),
                    .digits hmark hwritten (numeral_of_spanDigits hspan hsome), ?_⟩
                  rw [(of_spanDigits hspan).1, List.cons_append, List.append_assoc]
      · cases h
        exact ⟨[], .none, rfl⟩

theorem exists_written_of_readNumber {cs rest : List Char} {t : NumberText}
    (h : readNumber cs = .ok (t, rest)) :
    exists text, NumberWritten t text ∧ cs = text ++ rest := by
  unfold readNumber at h
  split at h
  rename_i negative unsigned hsign
  -- a minus in front is read, and anything else is left
  have hsigned : cs = (if negative then ['-'] else []) ++ unsigned := by
    split at hsign
    · cases hsign
      rfl
    · cases hsign
      rfl
  cases hspan : spanDigits unsigned with
  | mk whole tail =>
      rw [hspan] at h
      dsimp only at h
      split at h
      · cases h
      · rename_i hstart
        rcases not_or.mp hstart with ⟨hsome, hzero⟩
        rcases exists_of_bind_eq_ok h with ⟨⟨fraction, afterFraction⟩, hfraction, h⟩
        rcases exists_of_bind_eq_ok h with ⟨⟨exponent, afterExponent⟩, hexponent, h⟩
        cases h
        rcases exists_written_of_readFractionPart hfraction with ⟨fractionText, hwritten, rfl⟩
        rcases exists_written_of_readExponentPart hexponent with ⟨exponentText, hwritten', rfl⟩
        refine ⟨_, .mk (numeral_of_spanDigits hspan hsome) hzero hwritten hwritten', ?_⟩
        rw [hsigned, (of_spanDigits hspan).1]
        simp only [List.append_assoc]

/-!
## Values
-/

/-- With so many values and members to read, the reader accepts only what the grammar writes. -/
structure AcceptsWritten (fuel : Nat) : Prop where
  form : forall {cs form rest}, readForm fuel cs = .ok (form, rest) ->
    exists text, Written form text ∧ cs = text ++ rest
  items : forall {cs forms rest}, readItems fuel cs = .ok (forms, rest) ->
    exists first more, (forall piece, piece ∈ first :: more -> Written piece.1 piece.2) ∧
      forms = (first :: more).map Prod.fst ∧
      cs = joinSegments [','] ((first :: more).map Prod.snd) ++ ']' :: rest
  members : forall {cs forms rest}, readMembers fuel cs = .ok (forms, rest) ->
    exists first more,
      (forall piece, piece ∈ first :: more -> KeyWritten piece.key piece.keyText) ∧
      (forall piece, piece ∈ first :: more -> Written piece.value piece.valueText) ∧
      forms = (first :: more).map MemberPiece.member ∧
      cs = joinSegments [','] ((first :: more).map MemberPiece.text) ++ '\x7d' :: rest

theorem exists_blanks_of_skipSpace {cs tail : List Char} (h : skipSpace cs = tail) :
    exists blanks, blanks.all isSpace = true ∧ cs = blanks ++ tail := by
  refine ⟨cs.takeWhile isSpace, List.all_takeWhile, ?_⟩
  rw [← h]
  exact List.takeWhile_append_dropWhile.symm

theorem exists_written_of_readForm {fuel : Nat} (ih : AcceptsWritten fuel)
    {cs rest : List Char} {form : Form} (h : readForm (fuel + 1) cs = .ok (form, rest)) :
    exists text, Written form text ∧ cs = text ++ rest := by
  rw [readForm] at h
  -- the spaces in front belong to whatever is written
  suffices exists text, Written form text ∧ skipSpace cs = text ++ rest by
    rcases this with ⟨text, hwritten, hskip⟩
    rcases exists_blanks_of_skipSpace hskip with ⟨blanks, hblanks, rfl⟩
    exact ⟨blanks ++ text, blanks_append_written hwritten hblanks,
      (List.append_assoc blanks text rest).symm⟩
  split at h
  · rename_i hstart
    cases h
    exact ⟨_, .null, hstart⟩
  · rename_i hstart
    cases h
    exact ⟨_, .true, hstart⟩
  · rename_i hstart
    cases h
    exact ⟨_, .false, hstart⟩
  · rename_i tail hstart
    rcases exists_of_bind_eq_ok h with ⟨⟨units, afterString⟩, hstring, h⟩
    cases h
    rcases exists_written_of_readString hstring with ⟨inner, hunits, rfl⟩
    refine ⟨_, .string (.mk hunits), ?_⟩
    rw [hstart, List.cons_append, List.append_assoc, List.singleton_append]
  · rename_i tail hstart
    split at h
    · rename_i hclosing
      cases h
      rcases exists_blanks_of_skipSpace hclosing with ⟨blanks, hblanks, rfl⟩
      refine ⟨_, .noItems hblanks, ?_⟩
      rw [hstart, List.cons_append, List.append_assoc, List.singleton_append]
    · rcases exists_of_bind_eq_ok h with ⟨⟨forms, afterItems⟩, hitems, h⟩
      cases h
      rw [readItems_congr (skipSpace_skipSpace _)] at hitems
      rcases ih.items hitems with ⟨first, more, hpieces, rfl, rfl⟩
      refine ⟨_, .items hpieces, ?_⟩
      rw [hstart, List.cons_append, List.append_assoc, List.singleton_append]
  · rename_i tail hstart
    split at h
    · rename_i hclosing
      cases h
      rcases exists_blanks_of_skipSpace hclosing with ⟨blanks, hblanks, rfl⟩
      refine ⟨_, .noMembers hblanks, ?_⟩
      rw [hstart, List.cons_append, List.append_assoc, List.singleton_append]
    · rcases exists_of_bind_eq_ok h with ⟨⟨forms, afterMembers⟩, hmembers, h⟩
      cases h
      rw [readMembers_congr (skipSpace_skipSpace _)] at hmembers
      rcases ih.members hmembers with ⟨first, more, hkeys, hvalues, rfl, rfl⟩
      refine ⟨_, .members hkeys hvalues, ?_⟩
      rw [hstart, List.cons_append, List.append_assoc, List.singleton_append]
  · rcases exists_of_bind_eq_ok h with ⟨⟨t, afterNumber⟩, hnumber, h⟩
    cases h
    rcases exists_written_of_readNumber hnumber with ⟨text, hwritten, hskip⟩
    exact ⟨text, .number hwritten, hskip⟩

theorem exists_written_of_readItems {fuel : Nat} (ih : AcceptsWritten fuel)
    {cs rest : List Char} {forms : List Form} (h : readItems (fuel + 1) cs = .ok (forms, rest)) :
    exists first more, (forall piece, piece ∈ first :: more -> Written piece.1 piece.2) ∧
      forms = (first :: more).map Prod.fst ∧
      cs = joinSegments [','] ((first :: more).map Prod.snd) ++ ']' :: rest := by
  rw [readItems] at h
  rcases exists_of_bind_eq_ok h with ⟨⟨form, afterItem⟩, hform, hmore⟩
  rcases ih.form hform with ⟨text, hwritten, rfl⟩
  dsimp only at hmore
  split at hmore
  · rename_i hcomma
    rcases exists_of_bind_eq_ok hmore with ⟨⟨later, afterLater⟩, hlater, hend⟩
    cases hend
    rcases exists_blanks_of_skipSpace hcomma with ⟨blanks, hblanks, rfl⟩
    rcases ih.items hlater with ⟨second, more, hpieces, rfl, rfl⟩
    refine ⟨(form, text ++ blanks), second :: more, List.forall_mem_cons.mpr ⟨?_, hpieces⟩, rfl, ?_⟩
    · exact written_append_blanks hwritten hblanks
    · rw [joinSegments_map_cons_cons]
      simp only [List.append_assoc, List.cons_append, List.nil_append]
  · rename_i hclosing
    cases hmore
    rcases exists_blanks_of_skipSpace hclosing with ⟨blanks, hblanks, rfl⟩
    exact ⟨(form, text ++ blanks), [],
      List.forall_mem_singleton.mpr (written_append_blanks hwritten hblanks), rfl,
      (List.append_assoc text blanks _).symm⟩
  · cases hmore

theorem exists_written_of_readMembers {fuel : Nat} (ih : AcceptsWritten fuel)
    {cs rest : List Char} {forms : List (List StringUnit × Form)}
    (h : readMembers (fuel + 1) cs = .ok (forms, rest)) :
    exists first more,
      (forall piece, piece ∈ first :: more -> KeyWritten piece.key piece.keyText) ∧
      (forall piece, piece ∈ first :: more -> Written piece.value piece.valueText) ∧
      forms = (first :: more).map MemberPiece.member ∧
      cs = joinSegments [','] ((first :: more).map MemberPiece.text) ++ '\x7d' :: rest := by
  rw [readMembers] at h
  split at h
  · rename_i hstart
    rcases exists_of_bind_eq_ok h with ⟨⟨key, afterKey⟩, hkey, hvalued⟩
    dsimp only at hvalued
    split at hvalued
    · rename_i hcolon
      rcases exists_of_bind_eq_ok hvalued with ⟨⟨value, afterValue⟩, hvalue, hmore⟩
      rcases exists_written_of_readString hkey with ⟨inner, hunits, rfl⟩
      rcases exists_blanks_of_skipSpace hstart with ⟨before, hbefore, rfl⟩
      rcases exists_blanks_of_skipSpace hcolon with ⟨after, hafter, rfl⟩
      rcases ih.form hvalue with ⟨text, hwritten, rfl⟩
      have hkeyWritten := KeyWritten.mk hbefore (.mk hunits) hafter
      dsimp only at hmore
      split at hmore
      · rename_i hcomma
        rcases exists_of_bind_eq_ok hmore with ⟨⟨later, afterLater⟩, hlater, hend⟩
        cases hend
        rcases exists_blanks_of_skipSpace hcomma with ⟨blanks, hblanks, rfl⟩
        rcases ih.members hlater with ⟨second, more, hkeys, hvalues, rfl, rfl⟩
        refine ⟨⟨key, _, value, text ++ blanks⟩, second :: more,
          List.forall_mem_cons.mpr ⟨hkeyWritten, hkeys⟩,
          List.forall_mem_cons.mpr ⟨written_append_blanks hwritten hblanks, hvalues⟩, rfl, ?_⟩
        rw [joinSegments_map_cons_cons, MemberPiece.text]
        simp only [List.append_assoc, List.cons_append, List.nil_append]
      · rename_i hclosing
        cases hmore
        rcases exists_blanks_of_skipSpace hclosing with ⟨blanks, hblanks, rfl⟩
        refine ⟨⟨key, _, value, text ++ blanks⟩, [], List.forall_mem_singleton.mpr hkeyWritten,
          List.forall_mem_singleton.mpr (written_append_blanks hwritten hblanks), rfl, ?_⟩
        simp only [List.map_cons, List.map_nil, joinSegments, MemberPiece.text,
          List.append_assoc, List.cons_append, List.nil_append]
      · cases hmore
    · cases hvalued
  · cases h

theorem acceptsWritten (fuel : Nat) : AcceptsWritten fuel := by
  induction fuel with
  | zero => exact ⟨nofun, nofun, nofun⟩
  | succ fuel ih =>
      exact ⟨exists_written_of_readForm ih, exists_written_of_readItems ih,
        exists_written_of_readMembers ih⟩

/-- The reader accepts the texts of the grammar, each as the form that it is written for. -/
theorem Form.read_eq_ok_iff {text : List Char} {form : Form} :
    Form.read text = .ok form <-> Written form text := by
  constructor
  · intro h
    unfold Form.read at h
    rcases exists_of_bind_eq_ok h with ⟨⟨form', rest⟩, hform, h⟩
    dsimp only at h
    split at h
    · rename_i hend
      cases h
      rcases (acceptsWritten _).form hform with ⟨written, hwritten, rfl⟩
      rcases exists_blanks_of_skipSpace (List.isEmpty_iff.mp hend) with ⟨blanks, hblanks, rfl⟩
      rw [List.append_nil]
      exact written_append_blanks hwritten hblanks
    · cases h
  · exact Form.read_written

end Json
end AnalysisHarness
