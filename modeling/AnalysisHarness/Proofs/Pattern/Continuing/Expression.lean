import AnalysisHarness.Proofs.Pattern.Continuing.Bracket

/-!
# Expressions that go on

One expression is read the same where the pattern goes on with a bar or a closing parenthesis, and
leaves the reader in the same state.
-/

namespace AnalysisHarness
namespace Pattern

open Unicode

section Expressions

variable {flags : Flags} {t : List Char}

/-!
## Groups
-/

theorem flagSetting_read_append {seen cs : List Char} {setting : FlagSetting}
    (h : FlagSetting.read flags seen cs = .ok setting) (t : List Char) :
    setting.rest <:+ cs ∧
      FlagSetting.read flags seen (cs ++ t) = .ok { setting with rest := setting.rest ++ t } := by
  induction cs generalizing flags seen with
  | nil =>
      rw [FlagSetting.read] at h
      cases h
  | cons c cs ih =>
      have hcons := List.suffix_cons c cs
      rw [List.cons_append]
      rw [FlagSetting.read] at h ⊢
      split at h
      · rename_i hmark
        rw [if_pos hmark]
        split at h
        · cases h
        · rename_i hhyphen
          cases h
          exact ⟨hcons, if_neg hhyphen⟩
      · rename_i hmark
        rw [if_neg hmark]
        split at h
        · cases h
        · rename_i hseen
          rw [if_neg hseen]
          split at h
          · rename_i hhyphen
            rw [if_pos hhyphen]
            exact ⟨(ih h).1.trans hcons, (ih h).2⟩
          · rename_i hhyphen
            rw [if_neg hhyphen]
            split at h
            · cases h
            · rename_i changed hchanged
              exact ⟨(ih h).1.trans hcons, (ih h).2⟩

theorem readGroupName_append {name cs found rest : List Char}
    (h : readGroupName name cs = .ok (found, rest)) (t : List Char) :
    rest <:+ cs ∧ readGroupName name (cs ++ t) = .ok (found, rest ++ t) := by
  induction cs generalizing name with
  | nil =>
      rw [readGroupName] at h
      cases h
  | cons c cs ih =>
      have hcons := List.suffix_cons c cs
      rw [List.cons_append]
      rw [readGroupName] at h ⊢
      split at h
      · rename_i hend
        rw [if_pos hend]
        split at h
        · cases h
        · rename_i hname
          cases h
          exact ⟨hcons, if_neg hname⟩
      · rename_i hend
        rw [if_neg hend]
        split at h
        · rename_i hcharacter
          rw [if_pos hcharacter]
          exact ⟨(ih h).1.trans hcons, (ih h).2⟩
        · cases h

def openNamed (s : ReaderState) (cs : List Char) : Except Fault (ReaderState × List Char) := do
  let (name, rest) ← readGroupName [] cs
  if s.names.contains name then .error .badGroupName
  else pure ({ s with names := name :: s.names }.openGroup s.group.flags, rest)

def readSetting (s : ReaderState) (cs : List Char) :
    Except Fault (ReaderState × List Char) := do
  let setting ← FlagSetting.read s.group.flags [] cs
  if setting.opensGroup then pure (s.openGroup setting.flags, setting.rest)
  else if setting.isEmpty then .error .badFlags
  else
    let s := { s with group := { s.group with flags := setting.flags } }
    pure (s.push ⟨.empty, 0, false⟩, setting.rest)

theorem readGroupStart_eq (s : ReaderState) (cs : List Char) :
    readGroupStart s cs =
      match s.group.flags.skip cs with
      | '?' :: '=' :: _ => .error .lookAround
      | '?' :: '!' :: _ => .error .lookAround
      | '?' :: '<' :: '=' :: _ => .error .lookAround
      | '?' :: '<' :: '!' :: _ => .error .lookAround
      | '?' :: 'P' :: '<' :: rest => openNamed s rest
      | '?' :: '<' :: rest => openNamed s rest
      | '?' :: rest => readSetting s rest
      | cs => .ok (s.openGroup s.group.flags, cs) := rfl

theorem readGroupStart_named (s : ReaderState) {cs inner : List Char} {c : Char}
    (h : s.group.flags.skip cs = '?' :: '<' :: c :: inner) (hc : c ≠ '=' ∧ c ≠ '!') :
    readGroupStart s cs = openNamed s (c :: inner) := by
  rw [readGroupStart_eq, h]
  split
  all_goals grind

theorem readGroupStart_setting (s : ReaderState) {cs inner : List Char} {c : Char}
    (h : s.group.flags.skip cs = '?' :: c :: inner) (hc : c ∉ ['=', '!', '<', 'P']) :
    readGroupStart s cs = readSetting s (c :: inner) := by
  rw [readGroupStart_eq, h]
  split
  all_goals grind

theorem readGroupStart_plain (s : ReaderState) {cs : List Char}
    (h : forall inner, s.group.flags.skip cs ≠ '?' :: inner) :
    readGroupStart s cs = .ok (s.openGroup s.group.flags, s.group.flags.skip cs) := by
  rw [readGroupStart_eq]
  split
  all_goals grind

theorem openNamed_append {s s' : ReaderState} {cs rest : List Char}
    (h : openNamed s cs = .ok (s', rest)) (t : List Char) :
    rest <:+ cs ∧ openNamed s (cs ++ t) = .ok (s', rest ++ t) := by
  rcases exists_of_bind_eq_ok h with ⟨⟨name, after⟩, hname, h⟩
  dsimp only at h
  split at h
  · cases h
  · rename_i hnew
    cases h
    rcases readGroupName_append hname t with ⟨hsuffix, hname'⟩
    exact ⟨hsuffix, bind_eq_ok hname' (if_neg hnew)⟩

theorem readSetting_append {s s' : ReaderState} {cs rest : List Char}
    (h : readSetting s cs = .ok (s', rest)) (t : List Char) :
    rest <:+ cs ∧ readSetting s (cs ++ t) = .ok (s', rest ++ t) := by
  rcases exists_of_bind_eq_ok h with ⟨setting, hsetting, h⟩
  rcases flagSetting_read_append hsetting t with ⟨hsuffix, hsetting'⟩
  split at h
  · rename_i hopens
    cases h
    exact ⟨hsuffix, bind_eq_ok hsetting' (if_pos hopens)⟩
  · rename_i hopens
    split at h
    · cases h
    · rename_i hempty
      cases h
      exact ⟨hsuffix, bind_eq_ok hsetting' ((if_neg hopens).trans (if_neg hempty))⟩

section Behind

variable (ht : Behind t)
include ht

theorem follows_readGroupStart {s s' : ReaderState} {cs rest : List Char}
    (h : readGroupStart s cs = .ok (s', rest)) :
    rest <:+ cs ∧ exists rest', Follows s'.group.flags t rest rest' ∧
      readGroupStart s (cs ++ t) = .ok (s', rest') := by
  rw [readGroupStart_eq] at h ⊢
  have hskip := follows_skip ht (@Follows.append s.group.flags t cs)
  have hsuffix := skip_suffix s.group.flags cs
  split at h
  · cases h
  · cases h
  · cases h
  · cases h
  · rename_i inner hmark
    rw [hmark] at hskip hsuffix
    rcases openNamed_append h t with ⟨hinner, hnamed⟩
    have hprefix := ((List.suffix_cons '<' inner).trans (List.suffix_cons 'P' _)).trans
      (List.suffix_cons '?' _)
    refine ⟨(hinner.trans hprefix).trans hsuffix, rest ++ t, .append rest, ?_⟩
    rw [hskip.cons]
    exact hnamed
  · rename_i inner hequal hexclamation hmark
    rw [hmark] at hskip hsuffix
    rcases openNamed_append h t with ⟨hinner, hnamed⟩
    have hprefix := (List.suffix_cons '<' inner).trans (List.suffix_cons '?' _)
    refine ⟨(hinner.trans hprefix).trans hsuffix, rest ++ t, .append rest, ?_⟩
    cases inner with
    | nil => cases h
    | cons c inner =>
        have hc : c ≠ '=' ∧ c ≠ '!' :=
          ⟨fun hc => hequal inner (by rw [hc]), fun hc => hexclamation inner (by rw [hc])⟩
        exact (readGroupStart_named s hskip.cons hc).trans hnamed
  · rename_i inner hequal hexclamation _ _ _ hangle hmark
    rw [hmark] at hskip hsuffix
    rcases readSetting_append h t with ⟨hinner, hsetting⟩
    refine ⟨(hinner.trans (List.suffix_cons '?' inner)).trans hsuffix, rest ++ t, .append rest, ?_⟩
    cases inner with
    | nil => cases h
    | cons c inner =>
        -- The letter of a name is no flag, so a setting does not begin with it.
        have hc : c ∉ ['=', '!', '<', 'P'] := by
          intro hc
          simp only [List.mem_cons, List.not_mem_nil, or_false] at hc
          rcases hc with rfl | rfl | rfl | rfl
          · exact hequal inner rfl
          · exact hexclamation inner rfl
          · exact hangle inner rfl
          · cases h
        exact (readGroupStart_setting s hskip.cons hc).trans hsetting
  · rename_i hmark
    cases h
    refine ⟨hsuffix, _, hskip, ?_⟩
    exact readGroupStart_plain s (not_cons_of_follows ht (by decide) hskip hmark)

/-!
## Repetitions
-/

omit ht in
theorem readDigits_eq (fuel : Nat) (digits cs : List Char) :
    readDigits flags fuel digits cs =
      ((skim flags Char.isDigit (fun digits c => c :: digits) fuel digits cs).1.reverse,
        (skim flags Char.isDigit (fun digits c => c :: digits) fuel digits cs).2) := by
  induction fuel generalizing digits cs with
  | zero => rfl
  | succ fuel ih =>
      cases cs with
      | nil => rfl
      | cons c cs =>
          rw [readDigits, skim]
          split
          · exact ih (c :: digits) (flags.skip cs)
          · rfl

theorem follows_readDigits {fuel more : Nat} (digits : List Char) {cs cs' : List Char}
    (hfuel : cs.length < fuel) (hmore : cs'.length < more) (hfollows : Follows flags t cs cs') :
    (readDigits flags fuel digits cs).2 <:+ cs ∧
    (readDigits flags fuel digits cs).1 = (readDigits flags more digits cs').1 ∧
    Follows flags t (readDigits flags fuel digits cs).2 (readDigits flags more digits cs').2 := by
  have hkind : '|'.isDigit = false ∧ ')'.isDigit = false := by decide
  rw [readDigits_eq, readDigits_eq]
  rcases follows_skim ht hkind digits hfuel hmore hfollows with ⟨hsuffix, hdigits, hrest⟩
  exact ⟨hsuffix, congrArg List.reverse hdigits, hrest⟩

def countOf (digits rest : List Char) : Except Fault (Option Nat × List Char) :=
  if digits.isEmpty then .ok (none, rest)
  else if 2 ^ 32 ≤ digits.foldl (fun value c => value * 10 + (c.toNat - 48)) 0 then
    .error .badRepetition
  else .ok (some (digits.foldl (fun value c => value * 10 + (c.toNat - 48)) 0), rest)

omit ht in
theorem readCount_eq (cs : List Char) :
    readCount flags cs =
      let digits := readDigits flags ((cs.dropWhile Text.isBlank).length + 1) []
        (cs.dropWhile Text.isBlank)
      countOf digits.1 (flags.skip (digits.2.dropWhile Text.isBlank)) := rfl

omit ht in
theorem countOf_rest {digits after rest : List Char} {count : Option Nat}
    (h : countOf digits after = .ok (count, rest)) (after' : List Char) :
    rest = after ∧ countOf digits after' = .ok (count, after') := by
  rw [countOf] at h ⊢
  split at h
  · rename_i hempty
    cases h
    exact ⟨rfl, if_pos hempty⟩
  · rename_i hempty
    rw [if_neg hempty]
    split at h
    · cases h
    · rename_i hlarge
      cases h
      exact ⟨rfl, if_neg hlarge⟩

theorem steady_readCount : Steady flags t (readCount flags) (readCount flags) := by
  intro cs cs' count rest hfollows h
  have hblank := follows_dropWhile_isBlank ht hfollows
  rcases follows_readDigits ht [] (Nat.lt_succ_self _) (Nat.lt_succ_self _) hblank with
    ⟨hsuffix, hdigits, hrest⟩
  rw [readCount_eq] at h ⊢
  dsimp only at h ⊢
  rcases countOf_rest h (flags.skip ((readDigits flags ((cs'.dropWhile Text.isBlank).length + 1) []
    (cs'.dropWhile Text.isBlank)).2.dropWhile Text.isBlank)) with ⟨rfl, hcount⟩
  have hend := (skip_suffix flags _).trans ((List.dropWhile_suffix Text.isBlank).trans hsuffix)
  refine ⟨hend.trans (List.dropWhile_suffix Text.isBlank), _,
    follows_skip ht (follows_dropWhile_isBlank ht hrest), ?_⟩
  rw [← hdigits]
  exact hcount

omit ht in
theorem dropLazy_suffix (cs : List Char) : dropLazy cs <:+ cs := by
  unfold dropLazy
  split
  · exact List.suffix_cons _ _
  · exact List.suffix_rfl

omit ht in
theorem dropLazy_of_not_cons {cs : List Char} (h : forall inner, cs ≠ '?' :: inner) :
    dropLazy cs = cs := by
  unfold dropLazy
  split
  · exact absurd rfl (h _)
  · rfl

theorem follows_dropLazy {cs cs' : List Char} (h : Follows flags t cs cs') :
    Follows flags t (dropLazy cs) (dropLazy cs') := by
  by_cases hmark : exists inner, cs = '?' :: inner
  · rcases hmark with ⟨inner, rfl⟩
    rw [h.cons]
    exact .append inner
  · have hplain : forall inner, cs ≠ '?' :: inner := fun inner hinner => hmark ⟨inner, hinner⟩
    rw [dropLazy_of_not_cons hplain,
      dropLazy_of_not_cons (not_cons_of_follows ht (by decide) h hplain)]
    exact h

def readUpper (flags : Flags) (min : Option Nat) (cs : List Char) :
    Except Fault (Nat × Option Nat × List Char) :=
  match flags.skip cs with
  | '}' :: rest =>
      match min with
      | none => .error .badRepetition
      | some min => pure (min, none, dropLazy (flags.skip rest))
  | rest => do
      let (max, rest) ← readCount flags rest
      match min, max, rest with
      | some min, some max, '}' :: rest =>
          if max < min then .error .badRepetition
          else pure (min, some max, dropLazy (flags.skip rest))
      | _, _, _ => .error .badRepetition

omit ht in
theorem readBounds_eq (cs : List Char) :
    readBounds flags cs = readCount flags (flags.skip cs) >>= fun count =>
      match count.2 with
      | ',' :: rest => readUpper flags count.1 rest
      | '}' :: rest =>
          match count.1 with
          | none => .error .badRepetition
          | some n => pure (n, some n, dropLazy (flags.skip rest))
      | _ => .error .badRepetition := rfl

omit ht in
theorem readUpper_of_not_close (min : Option Nat) {cs : List Char}
    (h : forall inner, flags.skip cs ≠ '}' :: inner) :
    readUpper flags min cs = readCount flags (flags.skip cs) >>= fun count =>
      match min, count.1, count.2 with
      | some min, some max, '}' :: rest =>
          if max < min then .error .badRepetition
          else pure (min, some max, dropLazy (flags.skip rest))
      | _, _, _ => .error .badRepetition := by
  unfold readUpper
  split
  · rename_i hclose
    exact absurd hclose (h _)
  · rfl

theorem follows_closing {cs cs' rest : List Char} (h : Follows flags t ('}' :: rest) cs') 
    (hsuffix : '}' :: rest <:+ cs) :
    dropLazy (flags.skip rest) <:+ cs ∧ cs' = '}' :: (rest ++ t) ∧
      Follows flags t (dropLazy (flags.skip rest)) (dropLazy (flags.skip (rest ++ t))) :=
  ⟨(((dropLazy_suffix _).trans (skip_suffix flags rest)).trans (List.suffix_cons '}' rest)).trans
    hsuffix, h.cons, follows_dropLazy ht (follows_skip ht (.append rest))⟩

theorem follows_readUpper {min : Option Nat} {cs cs' rest : List Char} {least : Nat}
    {most : Option Nat} (hfollows : Follows flags t cs cs')
    (h : readUpper flags min cs = .ok (least, most, rest)) :
    rest <:+ cs ∧ (forall n, n ∈ most -> least ≤ n) ∧ exists rest', Follows flags t rest rest' ∧
      readUpper flags min cs' = .ok (least, most, rest') := by
  have hskip := follows_skip ht hfollows
  by_cases hclose : exists inner, flags.skip cs = '}' :: inner
  · rcases hclose with ⟨inner, hinner⟩
    rw [hinner] at hskip
    rcases follows_closing ht hskip (suffix_of_skip hinner) with ⟨hsuffix, hskip', hrest⟩
    rw [readUpper, hinner] at h
    cases min with
    | none => cases h
    | some min =>
        cases h
        refine ⟨hsuffix, fun n hn => (Option.not_mem_none n hn).elim, _, hrest, ?_⟩
        rw [readUpper, hskip']
        rfl
  · have hplain : forall inner, flags.skip cs ≠ '}' :: inner :=
      fun inner hinner => hclose ⟨inner, hinner⟩
    rw [readUpper_of_not_close min hplain] at h
    rw [readUpper_of_not_close min (not_cons_of_follows ht (by decide) hskip hplain)]
    rcases exists_of_bind_eq_ok h with ⟨⟨max, after⟩, hcount, h⟩
    rcases steady_readCount ht _ _ _ _ hskip hcount with ⟨hsuffix, after', hafter, hcount'⟩
    split at h
    · rename_i hgreatest hclosing _
      dsimp only at hgreatest hclosing
      subst hgreatest hclosing
      rcases follows_closing ht hafter (hsuffix.trans (skip_suffix flags cs)) with
        ⟨hend, rfl, hrest⟩
      split at h
      · cases h
      · rename_i hless
        cases h
        refine ⟨hend, ?_, _, hrest, bind_eq_ok hcount' (if_neg hless)⟩
        intro n hn
        cases hn
        exact Nat.le_of_not_lt hless
    · cases h

theorem follows_readBounds {cs cs' rest : List Char} {least : Nat} {most : Option Nat}
    (hfollows : Follows flags t cs cs') (h : readBounds flags cs = .ok (least, most, rest)) :
    rest <:+ cs ∧ (forall n, n ∈ most -> least ≤ n) ∧ exists rest', Follows flags t rest rest' ∧
      readBounds flags cs' = .ok (least, most, rest') := by
  rw [readBounds_eq] at h ⊢
  rcases exists_of_bind_eq_ok h with ⟨⟨min, after⟩, hcount, h⟩
  rcases steady_readCount ht _ _ _ _ (follows_skip ht hfollows) hcount with
    ⟨hcountSuffix, after', hafter, hcount'⟩
  have hsuffix := hcountSuffix.trans (skip_suffix flags cs)
  dsimp only at h
  split at h
  · rename_i inner
    rcases follows_readUpper ht (.append inner) h with ⟨hend, hless, rest', hrest, hupper⟩
    refine ⟨(hend.trans (List.suffix_cons ',' inner)).trans hsuffix, hless, rest', hrest, ?_⟩
    rw [hafter.cons] at hcount'
    exact bind_eq_ok hcount' hupper
  · rename_i inner
    rcases follows_closing ht hafter hsuffix with ⟨hend, rfl, hrest⟩
    cases min with
    | none => cases h
    | some min =>
        cases h
        refine ⟨hend, ?_, _, hrest, bind_eq_ok hcount' rfl⟩
        intro n hn
        cases hn
        exact Nat.le_refl _
  · cases h

/-!
## Expressions
-/

omit ht in
theorem repeatLast_flags {s s' : ReaderState} {min : Nat} {max : Option Nat}
    (h : s.repeatLast min max = .ok s') : s'.group.flags = s.group.flags := by
  rw [ReaderState.repeatLast] at h
  split at h
  · cases h
  · split at h
    · cases h
      rfl
    · cases h

theorem follows_readExpression {s s' : ReaderState} {c : Char} {rest after : List Char}
    (h : readExpression s c rest = .ok (s', after)) :
    after <:+ rest ∧ exists after', Follows s'.group.flags t after after' ∧
      readExpression s c (rest ++ t) = .ok (s', after') := by
  unfold readExpression at h ⊢
  dsimp only at h ⊢
  split at h
  · exact follows_readGroupStart ht h
  · rcases exists_of_map_eq_ok h with ⟨closed, hclosed, h⟩
    cases h
    exact ⟨List.suffix_rfl, _, .append rest, by rw [hclosed]; rfl⟩
  · cases h
    exact ⟨List.suffix_rfl, _, .append rest, rfl⟩
  · rcases exists_of_bind_eq_ok h with ⟨⟨part, inner⟩, hread, h⟩
    cases h
    rcases steady_readBracket ht _ _ _ _ (.append rest) hread with ⟨hsuffix, after', hafter, hread'⟩
    exact ⟨hsuffix, after', hafter, bind_eq_ok hread' rfl⟩
  · rcases exists_of_map_eq_ok h with ⟨repeated, hrepeated, h⟩
    cases h
    exact ⟨dropLazy_suffix rest, _, follows_dropLazy ht (.append rest), by rw [hrepeated]; rfl⟩
  · rcases exists_of_map_eq_ok h with ⟨repeated, hrepeated, h⟩
    cases h
    exact ⟨dropLazy_suffix rest, _, follows_dropLazy ht (.append rest), by rw [hrepeated]; rfl⟩
  · rcases exists_of_map_eq_ok h with ⟨repeated, hrepeated, h⟩
    cases h
    exact ⟨dropLazy_suffix rest, _, follows_dropLazy ht (.append rest), by rw [hrepeated]; rfl⟩
  · rcases exists_of_bind_eq_ok h with ⟨⟨least, most, inner⟩, hbounds, h⟩
    rcases exists_of_map_eq_ok h with ⟨repeated, hrepeated, h⟩
    cases h
    rcases follows_readBounds ht (.append rest) hbounds with
      ⟨hsuffix, _, after', hafter, hbounds'⟩
    rw [← repeatLast_flags hrepeated] at hafter
    exact ⟨hsuffix, after', hafter, bind_eq_ok hbounds' (by rw [hrepeated]; rfl)⟩
  · rcases exists_of_bind_eq_ok h with ⟨cls, hcls, h⟩
    cases h
    exact ⟨List.suffix_rfl, _, .append rest, bind_eq_ok hcls rfl⟩
  · cases h
    exact ⟨List.suffix_rfl, _, .append rest, rfl⟩
  · cases h
    exact ⟨List.suffix_rfl, _, .append rest, rfl⟩
  · rcases exists_of_bind_eq_ok h with ⟨⟨escape, inner⟩, hescape, h⟩
    rcases steady_escape_read ht _ _ _ _ (.append rest) hescape with
      ⟨hsuffix, after', hafter, hescape'⟩
    cases escape with
    | literal c | members cls | look a =>
        cases h
        exact ⟨hsuffix, after', hafter, bind_eq_ok hescape' rfl⟩
  · cases h
    exact ⟨List.suffix_rfl, _, .append rest, rfl⟩

end Behind
end Expressions

end Pattern
end AnalysisHarness
