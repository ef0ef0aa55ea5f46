import AnalysisHarness.Proofs.Pattern.Continuing.Basic

/-!
# Escape sequences that go on

An escape sequence has its end in itself: a number of digits, a brace or a single letter. So it is
read the same wherever the pattern goes on behind it.
-/

namespace AnalysisHarness
namespace Pattern

open Unicode

section Escapes

variable {flags : Flags} {t : List Char}

section Behind

variable (ht : Behind t)
include ht

theorem steady_readFixedHex (count : Nat) (digits : List Char) :
    Steady flags t (readFixedHex flags count digits) (readFixedHex flags count digits) := by
  induction count generalizing digits with
  | zero =>
      intro cs cs' a rest hfollows h
      rw [readFixedHex] at h
      cases h
      exact ⟨List.suffix_rfl, cs', hfollows, by rw [readFixedHex]⟩
  | succ count ih =>
      intro cs cs' a rest hfollows h
      cases cs with
      | nil =>
          rw [readFixedHex] at h
          cases h
      | cons c cs =>
          rw [hfollows.cons]
          rw [readFixedHex] at h ⊢
          split at h
          · rename_i hdigit
            rw [if_pos hdigit]
            rcases ih _ _ _ a rest (follows_skip ht (.append cs)) h with ⟨hsuffix, hrest⟩
            have hcons := (skip_suffix flags cs).trans (List.suffix_cons c cs)
            exact ⟨hsuffix.trans hcons, hrest⟩
          · cases h

theorem steady_readBracedHex {fuel more : Nat} (hmore : fuel ≤ more) (digits : List Char) :
    Steady flags t (readBracedHex flags fuel digits) (readBracedHex flags more digits) := by
  induction fuel generalizing more digits with
  | zero =>
      intro cs cs' a rest _hfollows h
      rw [readBracedHex] at h
      cases h
  | succ fuel ih =>
      intro cs cs' a rest hfollows h
      rcases exists_succ_of_le hmore with ⟨more, rfl, hless⟩
      rw [readBracedHex] at h ⊢
      split at h
      · cases h
      · rename_i inner hskip
        rcases exists_cons_of_skip ht hfollows hskip with ⟨hskip', hinner⟩
        rw [hskip']
        split at h
        · cases h
        · rename_i hdigits
          cases h
          refine ⟨(skip_suffix flags inner).trans hinner, _, follows_skip ht (.append inner), ?_⟩
          exact if_neg hdigits
      · rename_i c inner hc hskip
        rcases exists_cons_of_skip ht hfollows hskip with ⟨hskip', hinner⟩
        rw [hskip']
        split at h
        · rename_i hdigit
          rcases ih hless _ _ _ a rest (.append inner) h with ⟨hsuffix, rest', hrest, hread⟩
          refine ⟨hsuffix.trans hinner, rest', hrest, ?_⟩
          split
          · contradiction
          · rename_i heq
            exact (hc (List.cons.inj heq).1).elim
          · rename_i heq
            cases heq
            exact (if_pos hdigit).trans hread
        · cases h

def readCodeDigits (flags : Flags) (letter : Char) (cs : List Char) :
    Except Fault ((Bool × List Char) × List Char) :=
  match flags.skip cs with
  | [] => .error .unexpectedEnd
  | '{' :: rest => do
      let (digits, rest) ← readBracedHex flags (rest.length + 1) [] rest
      pure ((true, digits), rest)
  | rest => do
      let (digits, rest) ←
        readFixedHex flags (if letter = 'x' then 2 else if letter = 'u' then 4 else 8) [] rest
      pure ((false, digits), rest)

def codeOf (flags : Flags) (letter : Char) (braced : Bool) (digits rest : List Char) :
    Except Fault (Char × List Char) :=
  match charOfCode? (readHex digits) with
  | none => .error .badEscape
  | some c =>
      if letter = 'x' ∧ !braced ∧ !flags.unicode ∧ 127 < c.toNat then .error .notAscii
      else .ok (c, rest)

omit ht in
theorem codeOf_rest {letter : Char} {braced : Bool} {digits after rest : List Char} {c : Char}
    (h : codeOf flags letter braced digits after = .ok (c, rest)) (after' : List Char) :
    rest = after ∧ codeOf flags letter braced digits after' = .ok (c, after') := by
  unfold codeOf at h ⊢
  split at h
  · cases h
  · split at h
    · cases h
    · rename_i hascii
      cases h
      exact ⟨rfl, if_neg hascii⟩

omit ht in
theorem readCodeDigits_braced (letter : Char) {cs inner : List Char}
    (hskip : flags.skip cs = '{' :: inner) :
    readCodeDigits flags letter cs =
      readBracedHex flags (inner.length + 1) [] inner >>= fun digits =>
        pure ((true, digits.1), digits.2) := by
  rw [readCodeDigits, hskip]
  rfl

omit ht in
theorem readCodeDigits_fixed (letter : Char) {cs inner : List Char} {c : Char}
    (hskip : flags.skip cs = c :: inner) (hc : c ≠ '{') :
    readCodeDigits flags letter cs =
      readFixedHex flags (if letter = 'x' then 2 else if letter = 'u' then 4 else 8) []
        (c :: inner) >>= fun digits => pure ((false, digits.1), digits.2) := by
  unfold readCodeDigits
  rw [hskip]
  split
  · contradiction
  · rename_i heq
    exact absurd (List.cons.inj heq).1 hc
  · rfl

omit ht in
theorem readCode_eq (letter : Char) (cs : List Char) :
    readCode flags letter cs =
      readCodeDigits flags letter cs >>= fun code =>
        codeOf flags letter code.1.1 code.1.2 code.2 := by
  unfold readCode
  dsimp only
  split
  · rename_i hskip
    rw [readCodeDigits, hskip]
    rfl
  · rename_i hskip
    rw [readCodeDigits_braced letter hskip, bind_assoc]
    rfl
  · rename_i hnil hbrace
    cases hskip : flags.skip cs with
    | nil => exact absurd hskip hnil
    | cons c inner =>
        have hc : c ≠ '{' := fun hc => hbrace inner (by rw [hskip, hc])
        rw [readCodeDigits_fixed letter hskip hc, bind_assoc]
        rfl

theorem steady_readCodeDigits (letter : Char) :
    Steady flags t (readCodeDigits flags letter) (readCodeDigits flags letter) := by
  intro cs cs' code rest hfollows h
  unfold readCodeDigits at h
  split at h
  · cases h
  · rename_i inner hskip
    rcases exists_cons_of_skip ht hfollows hskip with ⟨hskip', hinner⟩
    rcases exists_of_bind_eq_ok h with ⟨⟨digits, after⟩, hread, h⟩
    cases h
    have hlength := (@Follows.append flags t inner).length_le
    rcases steady_readBracedHex ht (Nat.succ_le_succ hlength) [] _ _ _ _ (.append inner) hread
      with ⟨hsuffix, rest', hrest, hread'⟩
    refine ⟨hsuffix.trans hinner, rest', hrest, ?_⟩
    rw [readCodeDigits_braced letter hskip']
    exact bind_eq_ok hread' rfl
  · rename_i hnil hbrace
    cases hskip : flags.skip cs with
    | nil => exact absurd hskip hnil
    | cons c inner =>
        have hc : c ≠ '{' := fun hc => hbrace inner (by rw [hskip, hc])
        rcases exists_of_bind_eq_ok h with ⟨⟨digits, after⟩, hread, h⟩
        cases h
        rcases exists_cons_of_skip ht hfollows hskip with ⟨hskip', _hinner⟩
        rw [hskip] at hread
        rcases steady_readFixedHex ht _ [] _ _ _ _ (.append (c :: inner)) hread with
          ⟨hsuffix, rest', hrest, hread'⟩
        refine ⟨hsuffix.trans (suffix_of_skip hskip), rest', hrest, ?_⟩
        rw [readCodeDigits_fixed letter hskip' hc]
        exact bind_eq_ok hread' rfl

theorem steady_readCode (letter : Char) :
    Steady flags t (readCode flags letter) (readCode flags letter) := by
  intro cs cs' c rest hfollows h
  rw [readCode_eq] at h ⊢
  rcases exists_of_bind_eq_ok h with ⟨⟨⟨braced, digits⟩, after⟩, hdigits, hcode⟩
  rcases steady_readCodeDigits ht letter _ _ _ _ hfollows hdigits with
    ⟨hsuffix, after', hafter, hdigits'⟩
  rcases codeOf_rest hcode after' with ⟨rfl, hcode'⟩
  exact ⟨hsuffix, after', hafter, bind_eq_ok hdigits' hcode'⟩

theorem steady_readPropertyName {fuel more : Nat} (hmore : fuel ≤ more) (name : List Char) :
    Steady flags t (readPropertyName flags fuel name) (readPropertyName flags more name) := by
  induction fuel generalizing more name with
  | zero =>
      intro cs cs' a rest _hfollows h
      rw [readPropertyName] at h
      cases h
  | succ fuel ih =>
      intro cs cs' a rest hfollows h
      rcases exists_succ_of_le hmore with ⟨more, rfl, hless⟩
      rw [readPropertyName] at h ⊢
      split at h
      · cases h
      · rename_i inner hskip
        rcases exists_cons_of_skip ht hfollows hskip with ⟨hskip', hinner⟩
        rw [hskip']
        cases h
        exact ⟨hinner, _, .append rest, rfl⟩
      · rename_i c inner hc hskip
        rcases exists_cons_of_skip ht hfollows hskip with ⟨hskip', hinner⟩
        rw [hskip']
        rcases ih hless _ _ _ a rest (.append inner) h with ⟨hsuffix, rest', hrest, hread⟩
        refine ⟨hsuffix.trans hinner, rest', hrest, ?_⟩
        split
        · contradiction
        · rename_i heq
          exact (hc (List.cons.inj heq).1).elim
        · rename_i heq
          cases heq
          exact hread

def readPropertyText (flags : Flags) (cs : List Char) :
    Except Fault (List Char × List Char) :=
  match flags.skip cs with
  | [] => .error .unexpectedEnd
  | '{' :: rest => readPropertyName flags (rest.length + 1) [] rest
  | '\\' :: _ => .error .badEscape
  | c :: rest => pure ([c], rest)

def propertyOf (flags : Flags) (negated : Bool) (name rest : List Char) :
    Except Fault (CharClass × List Char) :=
  if !flags.unicode then .error .notAscii
  else
    match propertyClass? name with
    | none => .error .unknownProperty
    | some cls => do
        let cls ← finishClass flags negated cls
        pure (cls, rest)

omit ht in
theorem propertyOf_rest {negated : Bool} {name after rest : List Char} {a : CharClass}
    (h : propertyOf flags negated name after = .ok (a, rest)) (after' : List Char) :
    rest = after ∧ propertyOf flags negated name after' = .ok (a, after') := by
  unfold propertyOf at h ⊢
  split at h
  · cases h
  · rename_i hunicode
    rw [if_neg hunicode]
    split at h
    · cases h
    · rcases exists_of_bind_eq_ok h with ⟨cls, hfinish, h⟩
      cases h
      exact ⟨rfl, bind_eq_ok hfinish rfl⟩

omit ht in
theorem readPropertyText_letter {cs inner : List Char} {c : Char}
    (hskip : flags.skip cs = c :: inner) (hc : c ≠ '{' ∧ c ≠ '\\') :
    readPropertyText flags cs = .ok ([c], inner) := by
  unfold readPropertyText
  rw [hskip]
  split
  · rename_i heq
    cases heq
  · rename_i heq
    exact absurd (List.cons.inj heq).1 hc.1
  · rename_i heq
    exact absurd (List.cons.inj heq).1 hc.2
  · rename_i heq
    rcases List.cons.inj heq with ⟨rfl, rfl⟩
    rfl

omit ht in
theorem readProperty_eq (negated : Bool) (cs : List Char) :
    readProperty flags negated cs =
      readPropertyText flags cs >>= fun text => propertyOf flags negated text.1 text.2 := by
  unfold readProperty
  dsimp only
  split
  · rename_i hskip
    rw [readPropertyText, hskip]
    rfl
  · rename_i hskip
    rw [readPropertyText, hskip]
    rfl
  · rename_i hskip
    rw [readPropertyText, hskip]
    rfl
  · rename_i hbrace hescape hskip
    rw [readPropertyText_letter hskip ⟨hbrace, hescape⟩]
    rfl

theorem steady_readPropertyText :
    Steady flags t (readPropertyText flags) (readPropertyText flags) := by
  intro cs cs' name rest hfollows h
  unfold readPropertyText at h
  split at h
  · cases h
  · rename_i inner hskip
    rcases exists_cons_of_skip ht hfollows hskip with ⟨hskip', hinner⟩
    have hlength := (@Follows.append flags t inner).length_le
    rcases steady_readPropertyName ht (Nat.succ_le_succ hlength) [] _ _ _ _ (.append inner) h
      with ⟨hsuffix, rest', hrest, hread'⟩
    refine ⟨hsuffix.trans hinner, rest', hrest, ?_⟩
    rw [readPropertyText, hskip']
    exact hread'
  · cases h
  · rename_i c inner hbrace hescape hskip
    rcases exists_cons_of_skip ht hfollows hskip with ⟨hskip', hinner⟩
    cases h
    exact ⟨hinner, rest ++ t, .append rest, readPropertyText_letter hskip' ⟨hbrace, hescape⟩⟩

theorem steady_readProperty (negated : Bool) :
    Steady flags t (readProperty flags negated) (readProperty flags negated) := by
  intro cs cs' a rest hfollows h
  rw [readProperty_eq] at h ⊢
  rcases exists_of_bind_eq_ok h with ⟨⟨name, after⟩, htext, hclass⟩
  rcases steady_readPropertyText ht _ _ _ _ hfollows htext with ⟨hsuffix, after', hafter, htext'⟩
  rcases propertyOf_rest hclass after' with ⟨rfl, hclass'⟩
  exact ⟨hsuffix, after', hafter, bind_eq_ok htext' hclass'⟩

omit ht in
theorem readBoundaryName_eq (fuel : Nat) (name cs : List Char) :
    readBoundaryName flags fuel name cs =
      ((skim flags isBoundaryLetter (fun name c => c :: name) fuel name cs).1.reverse,
        (skim flags isBoundaryLetter (fun name c => c :: name) fuel name cs).2) := by
  induction fuel generalizing name cs with
  | zero => rfl
  | succ fuel ih =>
      cases cs with
      | nil => rfl
      | cons c cs =>
          rw [readBoundaryName, skim]
          split
          · exact ih (c :: name) (flags.skip cs)
          · rfl

theorem follows_readBoundaryName {fuel more : Nat} (name : List Char) {cs cs' : List Char}
    (hfuel : cs.length < fuel) (hmore : cs'.length < more) (hfollows : Follows flags t cs cs') :
    (readBoundaryName flags fuel name cs).2 <:+ cs ∧
    (readBoundaryName flags fuel name cs).1 = (readBoundaryName flags more name cs').1 ∧
    Follows flags t (readBoundaryName flags fuel name cs).2
      (readBoundaryName flags more name cs').2 := by
  have hkind : isBoundaryLetter '|' = false ∧ isBoundaryLetter ')' = false := by decide
  rw [readBoundaryName_eq, readBoundaryName_eq]
  rcases follows_skim ht hkind name hfuel hmore hfollows with ⟨hsuffix, hname, hrest⟩
  exact ⟨hsuffix, congrArg List.reverse hname, hrest⟩

def namedBoundary (w : CharClass) (name rest : List Char) :
    Except Fault (Assertion × List Char) :=
  if name = "start".toList then .ok (.wordStart w, rest)
  else if name = "end".toList then .ok (.wordEnd w, rest)
  else if name = "start-half".toList then .ok (.wordStartHalf w, rest)
  else if name = "end-half".toList then .ok (.wordEndHalf w, rest)
  else .error .badEscape

omit ht in
theorem namedBoundary_rest {w : CharClass} {name after rest : List Char} {a : Assertion}
    (h : namedBoundary w name after = .ok (a, rest)) (after' : List Char) :
    rest = after ∧ namedBoundary w name after' = .ok (a, after') := by
  rw [namedBoundary] at h ⊢
  split at h
  · rename_i hname
    cases h
    exact ⟨rfl, if_pos hname⟩
  · rename_i hstart
    rw [if_neg hstart]
    split at h
    · rename_i hname
      cases h
      exact ⟨rfl, if_pos hname⟩
    · rename_i hend
      rw [if_neg hend]
      split at h
      · rename_i hname
        cases h
        exact ⟨rfl, if_pos hname⟩
      · rename_i hhalf
        rw [if_neg hhalf]
        split at h
        · rename_i hname
          cases h
          exact ⟨rfl, if_pos hname⟩
        · cases h

omit ht in
theorem readBoundary_brace (inner : List Char) :
    readBoundary flags ('{' :: inner) =
      match flags.skip inner with
      | [] => .error .unexpectedEnd
      | c :: name =>
          if !isBoundaryLetter c then .ok (.wordBoundary flags.word, '{' :: inner)
          else
            match (readBoundaryName flags (name.length + 2) [] (c :: name)).2 with
            | '}' :: rest =>
                namedBoundary flags.word
                  (readBoundaryName flags (name.length + 2) [] (c :: name)).1 rest
            | _ => .error .badEscape := rfl

theorem steady_readBoundary : Steady flags t (readBoundary flags) (readBoundary flags) := by
  intro cs cs' a rest hfollows h
  by_cases hbrace : exists inner, cs = '{' :: inner
  · rcases hbrace with ⟨inner, rfl⟩
    rw [readBoundary_brace] at h
    rw [hfollows.cons, readBoundary_brace]
    split at h
    · cases h
    · rename_i c name hskip
      rcases exists_cons_of_skip ht (@Follows.append flags t inner) hskip with ⟨hskip', hname⟩
      rw [hskip']
      split at h
      · rename_i hletter
        cases h
        exact ⟨List.suffix_rfl, _, .append _, if_pos hletter⟩
      · rename_i hletter
        have hboundary := @follows_readBoundaryName flags t ht (name.length + 2)
          ((name ++ t).length + 2) [] (c :: name) (c :: (name ++ t)) (Nat.lt_succ_self _)
          (Nat.lt_succ_self _) (.append (c :: name))
        split at h
        · rename_i after hafter
          rw [hafter] at hboundary
          rcases hboundary with ⟨hsuffix, hsame, hend⟩
          rcases namedBoundary_rest h (after ++ t) with ⟨rfl, hboundary⟩
          have hinner := (hsuffix.trans (suffix_of_skip hskip)).trans (List.suffix_cons '{' inner)
          refine ⟨(List.suffix_cons '}' rest).trans hinner, rest ++ t, .append rest, ?_⟩
          refine (if_neg hletter).trans ?_
          rw [← hsame, hend.cons]
          exact hboundary
        · cases h
  · have hsame : forall cs, (forall inner, cs ≠ '{' :: inner) ->
        readBoundary flags cs = .ok (.wordBoundary flags.word, cs) := by
      intro cs hcs
      unfold readBoundary
      split
      · exact absurd rfl (hcs _)
      · rfl
    rw [hsame cs fun inner h => hbrace ⟨inner, h⟩] at h
    cases h
    refine ⟨List.suffix_rfl, cs', hfollows, hsame cs' ?_⟩
    exact not_cons_of_follows ht (by decide) hfollows fun inner h => hbrace ⟨inner, h⟩

theorem steady_escape_read : Steady flags t (Escape.read flags) (Escape.read flags) := by
  intro cs cs' a rest hfollows h
  cases cs with
  | nil =>
      rw [Escape.read] at h
      cases h
  | cons c cs =>
      have hcons := List.suffix_cons c cs
      rw [hfollows.cons]
      unfold Escape.read at h ⊢
      dsimp only at h ⊢
      split at h
      · rename_i hcode
        rw [if_pos hcode]
        rcases exists_of_bind_eq_ok h with ⟨⟨c, after⟩, hread, h⟩
        cases h
        rcases steady_readCode ht _ _ _ _ _ (.append cs) hread with
          ⟨hsuffix, rest', hrest, hread'⟩
        exact ⟨hsuffix.trans hcons, rest', hrest, bind_eq_ok hread' rfl⟩
      · rename_i hcode
        rw [if_neg hcode]
        split at h
        · rename_i hproperty
          rw [if_pos hproperty]
          rcases exists_of_bind_eq_ok h with ⟨⟨cls, after⟩, hread, h⟩
          cases h
          rcases steady_readProperty ht _ _ _ _ _ (.append cs) hread with
            ⟨hsuffix, rest', hrest, hread'⟩
          exact ⟨hsuffix.trans hcons, rest', hrest, bind_eq_ok hread' rfl⟩
        · rename_i hproperty
          rw [if_neg hproperty]
          cases hletter : letterClass? flags c with
          | some cls =>
              rw [hletter] at h
              rcases exists_of_bind_eq_ok h with ⟨cls, hcls, h⟩
              cases h
              exact ⟨hcons, _, .append rest, bind_eq_ok hcls rfl⟩
          | none =>
              rw [hletter] at h
              dsimp only at h ⊢
              split at h
              · rename_i hescapable
                cases h
                exact ⟨hcons, _, .append rest, if_pos hescapable⟩
              · rename_i hescapable
                rw [if_neg hescapable]
                split at h
                case h_9 =>
                  rcases exists_of_bind_eq_ok h with ⟨⟨assertion, after⟩, hread, h⟩
                  cases h
                  rcases steady_readBoundary ht _ _ _ _ (.append cs) hread with
                    ⟨hsuffix, rest', hrest, hread'⟩
                  exact ⟨hsuffix.trans hcons, rest', hrest, bind_eq_ok hread' rfl⟩
                case h_13 => cases h
                all_goals
                  cases h
                  exact ⟨hcons, _, .append rest, rfl⟩

end Behind
end Escapes

end Pattern
end AnalysisHarness
