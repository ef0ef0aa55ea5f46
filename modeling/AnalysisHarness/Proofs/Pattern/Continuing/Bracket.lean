import AnalysisHarness.Proofs.Pattern.Continuing.Escape

/-!
# Bracketed classes that go on

A bracketed class ends with its bracket. On the way there its reader looks ahead three times: for
the name of a class, for a doubled sign and beyond a hyphen. None of these can find anything in
what stands behind the bracket.
-/

namespace AnalysisHarness
namespace Pattern

open Unicode

section Brackets

variable {flags : Flags} {t : List Char}

/-!
## Looking ahead
-/

theorem asciiClass?_eq_none {name : List Char} (h : '|' ∈ name ∨ ')' ∈ name) :
    asciiClass? name = none := by
  unfold asciiClass?
  rw [Option.map_eq_none_iff, List.find?_eq_none]
  intro entry hentry hname
  have hplain : '|' ∉ entry.1.toList ∧ ')' ∉ entry.1.toList := by
    simp only [List.mem_cons, List.not_mem_nil, or_false] at hentry
    rcases hentry with rfl | rfl | rfl | rfl | rfl | rfl | rfl | rfl | rfl | rfl | rfl | rfl | rfl |
      rfl <;> decide +kernel
  rw [of_decide_eq_true hname] at hplain
  exact h.elim hplain.1 hplain.2

def readClassName (negated : Bool) (body : List Char) :
    Option (CharClass × Bool × List Char) :=
  match body.dropWhile (· != ':') with
  | ':' :: ']' :: rest =>
      (asciiClass? (body.takeWhile (· != ':'))).map fun cls => (cls, negated, rest)
  | _ => none

theorem readNamedClass?_suffix {cs rest : List Char} {cls : CharClass} {negated : Bool}
    (h : readNamedClass? cs = some (cls, negated, rest)) : rest <:+ cs := by
  unfold readNamedClass? at h
  split at h
  · rename_i inner
    split at h
    rename_i negated' body hpair
    have hbody : body <:+ inner := by
      split at hpair
      · cases hpair
        exact List.suffix_cons '^' body
      · cases hpair
        exact List.suffix_rfl
    dsimp only at h
    split at h
    · rename_i after hafter
      rcases Option.map_eq_some_iff.mp h with ⟨cls', _hcls, hnamed⟩
      cases hnamed
      have hdrop : ':' :: ']' :: rest <:+ body := by
        rw [← hafter]
        exact List.dropWhile_suffix _
      have hrest := (List.suffix_cons ']' rest).trans (List.suffix_cons ':' (']' :: rest))
      exact ((hrest.trans hdrop).trans hbody).trans (List.suffix_cons ':' inner)
    · cases h
  · cases h

theorem classOperator_read_suffix {cs rest : List Char} {op : ClassOperator}
    (h : ClassOperator.read cs = some (op, rest)) : rest <:+ cs := by
  unfold ClassOperator.read at h
  split at h
  all_goals cases h
  all_goals exact (List.suffix_cons _ rest).trans (List.suffix_cons _ _)

section Behind

variable (ht : Behind t)
include ht

theorem readClassName_append (negated : Bool) (body : List Char) :
    readClassName negated (body ++ t) =
      (readClassName negated body).map fun named => (named.1, named.2.1, named.2.2 ++ t) := by
  rcases ht.head with ⟨d, behind, rfl, hd⟩
  have hwhole := @List.takeWhile_append_dropWhile _ (· != ':') body
  unfold readClassName
  cases hend : body.dropWhile (· != ':') with
  | nil =>
      rw [hend, List.append_nil] at hwhole
      have hcolon : (d != ':') = true := by
        rcases hd with rfl | rfl <;> rfl
      have hname : (body ++ d :: behind).takeWhile (· != ':') =
          body ++ d :: behind.takeWhile (· != ':') := by
        rw [List.takeWhile_append, hwhole, if_pos rfl, List.takeWhile_cons, if_pos hcolon]
      have hnone : asciiClass? ((body ++ d :: behind).takeWhile (· != ':')) = none := by
        have hmem : d ∈ body ++ d :: behind.takeWhile (· != ':') :=
          List.mem_append_right body List.mem_cons_self
        rw [hname]
        rcases hd with rfl | rfl
        · exact asciiClass?_eq_none (Or.inl hmem)
        · exact asciiClass?_eq_none (Or.inr hmem)
      split
      · rw [hnone]
        rfl
      · rfl
  | cons c after =>
      rw [hend] at hwhole
      have hdrop : (body ++ d :: behind).dropWhile (· != ':') = c :: (after ++ d :: behind) := by
        rw [List.dropWhile_append, hend]
        rfl
      have htake : (body ++ d :: behind).takeWhile (· != ':') = body.takeWhile (· != ':') := by
        have hshort : (body.takeWhile (· != ':')).length ≠ body.length := by
          intro hlength
          have hsum := congrArg List.length hwhole
          rw [List.length_append, hlength, List.length_cons] at hsum
          omega
        rw [List.takeWhile_append, if_neg hshort]
      rw [hdrop, htake]
      by_cases hclose : c = ':' ∧ exists rest, after = ']' :: rest
      · rcases hclose with ⟨rfl, rest, rfl⟩
        cases hclass : asciiClass? (body.takeWhile (· != ':')) with
        | none => rfl
        | some cls => rfl
      · have hopen : forall rest, c :: after ≠ ':' :: ']' :: rest := by
          intro rest heq
          cases heq
          exact hclose ⟨rfl, rest, rfl⟩
        split
        · rename_i rest heq
          cases after with
          | nil =>
              cases heq
              exact absurd hd (by decide)
          | cons e after =>
              cases heq
              exact absurd rfl (hopen _)
        · rfl

omit ht in
theorem readNamedClass?_of_plain {inner : List Char} (h : forall body, inner ≠ '^' :: body) :
    readNamedClass? (':' :: inner) = readClassName false inner := by
  unfold readNamedClass?
  split
  · rename_i heq
    cases heq
    split
    rename_i hpair
    split at hpair
    · exact absurd rfl (h _)
    · cases hpair
      rfl
  · rename_i hcolon
    exact (hcolon inner rfl).elim

omit ht in
theorem readNamedClass?_of_not_colon {cs : List Char} (h : forall inner, cs ≠ ':' :: inner) :
    readNamedClass? cs = none := by
  unfold readNamedClass?
  split
  · exact absurd rfl (h _)
  · rfl

theorem readNamedClass?_append (cs : List Char) :
    readNamedClass? (cs ++ t) =
      (readNamedClass? cs).map fun named => (named.1, named.2.1, named.2.2 ++ t) := by
  by_cases hcolon : exists inner, cs = ':' :: inner
  · rcases hcolon with ⟨inner, rfl⟩
    by_cases hcaret : exists body, inner = '^' :: body
    · rcases hcaret with ⟨body, rfl⟩
      exact readClassName_append ht true body
    · have hinner : forall body, inner ≠ '^' :: body := fun body h => hcaret ⟨body, h⟩
      have hinner' := not_cons_of_follows ht (by decide) (@Follows.append {} t inner) hinner
      rw [List.cons_append, readNamedClass?_of_plain hinner, readNamedClass?_of_plain hinner']
      exact readClassName_append ht false inner
  · have hcs : forall inner, cs ≠ ':' :: inner := fun inner h => hcolon ⟨inner, h⟩
    have hcs' := not_cons_of_follows ht (by decide) (@Follows.append {} t cs) hcs
    rw [readNamedClass?_of_not_colon hcs, readNamedClass?_of_not_colon hcs']
    rfl

omit ht in
theorem head?_ne_of_dropWhile {p : Char -> Bool} {c : Char} (hc : p c = false) {cs : List Char}
    (h : forall rest, cs.dropWhile p ≠ c :: rest) : cs.head? ≠ some c := by
  intro hhead
  cases cs with
  | nil => cases hhead
  | cons d cs =>
      cases hhead
      exact h cs (List.dropWhile_cons_of_neg (Bool.eq_false_iff.mp hc))

section Peek

variable (hextended : flags.extended = true) {rest inner : List Char}
include hextended

omit ht in
theorem peekBeyond_nil (h : rest.dropWhile Text.isBlank = []) :
    peekBeyond flags rest = rest.head? := by
  rw [peekBeyond, if_pos hextended, h]

omit ht in
theorem peekBeyond_cons {c : Char} (h : rest.dropWhile Text.isBlank = c :: inner) (hc : c ≠ '#') :
    peekBeyond flags rest = some c := by
  rw [peekBeyond, if_pos hextended, h]
  split
  · contradiction
  · rename_i heq
    exact absurd (List.cons.inj heq).1 hc
  · rename_i heq
    cases heq
    rfl

omit ht in
theorem peekBeyond_comment (h : rest.dropWhile Text.isBlank = '#' :: inner) :
    peekBeyond flags rest = (inner.dropWhile Text.isBlank).head?.or rest.head? := by
  rw [peekBeyond, if_pos hextended, h]
  simp only
  cases inner.dropWhile Text.isBlank with
  | nil => rfl
  | cons c inner => rfl

end Peek

theorem peekBeyond_append_iff {c : Char} (hc : c = ']' ∨ c = '-') (cs : List Char) :
    peekBeyond flags (cs ++ t) = some c <-> peekBeyond flags cs = some c := by
  rcases ht.head with ⟨d, behind, rfl, hd⟩
  have hdc : d ≠ c := by
    rcases hd with rfl | rfl <;> rcases hc with rfl | rfl <;> decide
  have hcomment : d ≠ '#' ∧ c ≠ '#' := by
    constructor
    · rcases hd with rfl | rfl <;> decide
    · rcases hc with rfl | rfl <;> decide
  have hblank : Text.isBlank c = false := by
    rcases hc with rfl | rfl <;> decide
  have hother : some d ≠ some c := fun h => hdc (Option.some.inj h)
  by_cases hextended : flags.extended = true
  · have hdrop := dropWhile_isBlank_append ht cs
    cases hrest : cs.dropWhile Text.isBlank with
    | nil =>
        -- Only blanks are left, so that the next character stands behind the text.
        have hhead := head?_ne_of_dropWhile hblank (fun rest h => by rw [hrest] at h; cases h)
        rw [hrest, List.nil_append] at hdrop
        rw [peekBeyond_nil hextended hrest, peekBeyond_cons hextended hdrop hcomment.1]
        exact iff_of_false hother hhead
    | cons e rest =>
        rw [hrest, List.cons_append] at hdrop
        by_cases he : e = '#'
        · subst he
          have hinner := dropWhile_isBlank_append ht rest
          have hhead := head?_ne_of_dropWhile hblank (fun rest h => by
            rw [hrest] at h
            exact hcomment.2 (List.cons.inj h).1.symm)
          rw [peekBeyond_comment hextended hrest, peekBeyond_comment hextended hdrop, hinner]
          cases rest.dropWhile Text.isBlank with
          | nil => exact iff_of_false hother hhead
          | cons f comment => exact Iff.rfl
        · rw [peekBeyond_cons hextended hrest he, peekBeyond_cons hextended hdrop he]
  · rw [peekBeyond, peekBeyond, if_neg hextended, if_neg hextended]
    cases cs with
    | nil => exact iff_of_false hother (fun h => nomatch h)
    | cons e cs => exact Iff.rfl

def operatorOf : Char -> Option ClassOperator
  | '&' => some .intersection
  | '-' => some .difference
  | '~' => some .symmetricDifference
  | _ => none

omit ht in
theorem classOperator_read_pair (c d : Char) (rest : List Char) :
    ClassOperator.read (c :: d :: rest) =
      if c = d then (operatorOf d).map fun op => (op, rest) else none := by
  unfold ClassOperator.read
  split
  · rename_i heq
    cases heq
    rfl
  · rename_i heq
    cases heq
    rfl
  · rename_i heq
    cases heq
    rfl
  · rename_i hand hminus htilde
    by_cases hcd : c = d
    · subst hcd
      rw [if_pos rfl]
      unfold operatorOf
      split
      · exact (hand _ rfl).elim
      · exact (hminus _ rfl).elim
      · exact (htilde _ rfl).elim
      · rfl
    · rw [if_neg hcd]

omit ht in
theorem classOperator_read_single (c : Char) : ClassOperator.read [c] = none := by
  unfold ClassOperator.read
  split
  · rename_i heq
    cases heq
  · rename_i heq
    cases heq
  · rename_i heq
    cases heq
  · rfl

theorem classOperator_read_append (c : Char) (cs : List Char) :
    ClassOperator.read (c :: (cs ++ t)) =
      (ClassOperator.read (c :: cs)).map fun found => (found.1, found.2 ++ t) := by
  cases cs with
  | nil =>
      rcases ht.head with ⟨d, rest, rfl, hd⟩
      have hnone : operatorOf d = none := by
        rcases hd with rfl | rfl <;> rfl
      rw [List.nil_append, classOperator_read_pair, classOperator_read_single, hnone]
      exact ite_self _
  | cons e cs =>
      rw [List.cons_append, classOperator_read_pair, classOperator_read_pair]
      split
      · cases operatorOf e with
        | none => rfl
        | some op => rfl
      · rfl

/-!
## Items and ranges
-/

theorem steady_readClassItem : Steady flags t (readClassItem flags) (readClassItem flags) := by
  intro cs cs' a rest hfollows h
  cases cs with
  | nil =>
      rw [readClassItem] at h
      cases h
  | cons c cs =>
      have hcons := List.suffix_cons c cs
      rw [hfollows.cons]
      unfold readClassItem at h ⊢
      split at h
      · contradiction
      · rename_i inner heq
        cases heq
        rcases steady_escape_read ht _ _ _ _ (.append cs) h with ⟨hsuffix, hrest⟩
        exact ⟨hsuffix.trans hcons, hrest⟩
      · rename_i d inner hd heq
        cases heq
        cases h
        refine ⟨hcons, _, .append rest, ?_⟩
        split
        · contradiction
        · rename_i heq
          exact (hd (List.cons.inj heq).1).elim
        · rename_i heq
          cases heq
          rfl

def singleClass (flags : Flags) (first : Escape) (rest : List Char) :
    Except Fault (CharClass × List Char) :=
  match first with
  | .literal low => do
      let cls ← rangeClass flags low low
      pure (cls, rest)
  | .members cls => pure (cls, rest)
  | .look _ => .error .badBracket

def rangedClass (flags : Flags) (first last : Escape) (rest : List Char) :
    Except Fault (CharClass × List Char) :=
  match first, last with
  | .literal low, .literal high =>
      if high < low then .error .badRange
      else do
        let cls ← rangeClass flags low high
        pure (cls, rest)
  | _, _ => .error .badRange

omit ht in
theorem singleClass_rest {first : Escape} {after rest : List Char} {a : CharClass}
    (h : singleClass flags first after = .ok (a, rest)) (after' : List Char) :
    rest = after ∧ singleClass flags first after' = .ok (a, after') := by
  cases first with
  | literal low =>
      rcases exists_of_bind_eq_ok h with ⟨cls, hcls, h⟩
      cases h
      exact ⟨rfl, bind_eq_ok hcls rfl⟩
  | members cls =>
      cases h
      exact ⟨rfl, rfl⟩
  | look assertion => cases h

omit ht in
theorem rangedClass_rest {first last : Escape} {after rest : List Char} {a : CharClass}
    (h : rangedClass flags first last after = .ok (a, rest)) (after' : List Char) :
    rest = after ∧ rangedClass flags first last after' = .ok (a, after') := by
  unfold rangedClass at h ⊢
  split at h
  · split at h
    · cases h
    · rename_i horder
      rcases exists_of_bind_eq_ok h with ⟨cls, hcls, h⟩
      cases h
      exact ⟨rfl, (if_neg horder).trans (bind_eq_ok hcls rfl)⟩
  · cases h

theorem steady_readClassRange : Steady flags t (readClassRange flags) (readClassRange flags) := by
  intro cs cs' a rest hfollows h
  rcases exists_of_bind_eq_ok h with ⟨⟨first, after⟩, hfirst, h⟩
  rcases steady_readClassItem ht _ _ _ _ hfollows hfirst with
    ⟨hsuffix, after', hafter, hfirst'⟩
  dsimp only at h
  split at h
  · cases h
  · rename_i c inner hskip
    rcases exists_cons_of_skip ht hafter hskip with ⟨hskip', hinner⟩
    have hsame : c ≠ '-' ∨ peekBeyond flags (inner ++ t) = some ']' ∨
        peekBeyond flags (inner ++ t) = some '-' <->
        c ≠ '-' ∨ peekBeyond flags inner = some ']' ∨ peekBeyond flags inner = some '-' := by
      rw [peekBeyond_append_iff ht (Or.inl rfl), peekBeyond_append_iff ht (Or.inr rfl)]
    have hwhole := (suffix_of_skip hskip).trans hsuffix
    split at h
    · rename_i hsingle
      rcases singleClass_rest h (c :: (inner ++ t)) with ⟨rfl, hclass⟩
      refine ⟨hwhole, _, .append (c :: inner), bind_eq_ok hfirst' ?_⟩
      dsimp only
      rw [hskip']
      exact (if_pos (hsame.mpr hsingle)).trans hclass
    · rename_i hrange
      split at h
      · cases h
      · rename_i hnil
        cases hskipInner : flags.skip inner with
        | nil => exact absurd hskipInner hnil
        | cons d upper =>
            rcases exists_cons_of_skip ht (@Follows.append flags t inner) hskipInner with
              ⟨hskipInner', hupper⟩
            rw [hskipInner] at h
            rcases exists_of_bind_eq_ok h with ⟨⟨last, afterLast⟩, hlast, h⟩
            rcases steady_readClassItem ht _ _ _ _ (.append (d :: upper)) hlast with
              ⟨hsuffixLast, afterLast', hafterLast, hlast'⟩
            rcases rangedClass_rest h afterLast' with ⟨rfl, hclass⟩
            have hend := (hsuffixLast.trans (suffix_of_skip hskipInner)).trans
              (List.suffix_cons c inner)
            refine ⟨hend.trans hwhole, afterLast', hafterLast, bind_eq_ok hfirst' ?_⟩
            dsimp only
            rw [hskip']
            refine (if_neg (mt hsame.mp hrange)).trans ?_
            rw [hskipInner']
            exact bind_eq_ok hlast' hclass

/-!
## Brackets
-/

omit ht in
theorem readHyphens_eq (fuel : Nat) (parts : List ClassPart) (cs : List Char) :
    readHyphens flags fuel parts cs =
      skim flags (· == '-') (fun parts _ => ⟨.single 45, 0⟩ :: parts) fuel parts cs := by
  induction fuel generalizing parts cs with
  | zero => rfl
  | succ fuel ih =>
      cases cs with
      | nil => rfl
      | cons c cs =>
          by_cases hc : c = '-'
          · rw [hc]
            exact ih (⟨.single 45, 0⟩ :: parts) (flags.skip cs)
          · have hkind : (c == '-') = false := beq_eq_false_iff_ne.mpr hc
            rw [@skim_of_not_kind flags _ (· == '-') _ c hkind]
            unfold readHyphens
            split
            · rename_i heq
              exact absurd (List.cons.inj heq).1 hc
            · rfl

theorem follows_readHyphens {fuel more : Nat} (parts : List ClassPart) {cs cs' : List Char}
    (hfuel : cs.length < fuel) (hmore : cs'.length < more) (hfollows : Follows flags t cs cs') :
    (readHyphens flags fuel parts cs).2 <:+ cs ∧
    (readHyphens flags fuel parts cs).1 = (readHyphens flags more parts cs').1 ∧
    Follows flags t (readHyphens flags fuel parts cs).2 (readHyphens flags more parts cs').2 := by
  rw [readHyphens_eq, readHyphens_eq]
  exact follows_skim ht (by decide) parts hfuel hmore hfollows

def readComplement (flags : Flags) (cs : List Char) : Bool × List Char :=
  match flags.skip cs with
  | '^' :: rest => (true, flags.skip rest)
  | cs => (false, cs)

def readFirstBracket (flags : Flags) (negated : Bool) (parts : List ClassPart) (cs : List Char) :
    Except Fault BracketStart :=
  match cs with
  | [] => .error .badBracket
  | ']' :: rest =>
      if parts.isEmpty then
        match flags.skip rest with
        | [] => .error .badBracket
        | cs => .ok ⟨negated, [⟨.single 93, 0⟩], cs⟩
      else .ok ⟨negated, parts, cs⟩
  | _ => .ok ⟨negated, parts, cs⟩

omit ht in
theorem bracketStart_read_eq (cs : List Char) :
    BracketStart.read flags cs =
      readFirstBracket flags (readComplement flags cs).1
        (readHyphens flags ((readComplement flags cs).2.length + 1) []
          (readComplement flags cs).2).1
        (readHyphens flags ((readComplement flags cs).2.length + 1) []
          (readComplement flags cs).2).2 := rfl

theorem follows_readComplement {cs cs' : List Char} (h : Follows flags t cs cs') :
    (readComplement flags cs).2 <:+ cs ∧
    (readComplement flags cs).1 = (readComplement flags cs').1 ∧
    Follows flags t (readComplement flags cs).2 (readComplement flags cs').2 := by
  have hskip := follows_skip ht h
  have hother : forall ds, (forall rest, flags.skip ds ≠ '^' :: rest) ->
      readComplement flags ds = (false, flags.skip ds) := by
    intro ds hds
    unfold readComplement
    split
    · rename_i heq
      exact absurd heq (hds _)
    · rfl
  by_cases hcaret : exists rest, flags.skip cs = '^' :: rest
  · rcases hcaret with ⟨rest, hrest⟩
    rcases exists_cons_of_skip ht h hrest with ⟨hrest', hsuffix⟩
    rw [readComplement, readComplement, hrest, hrest']
    exact ⟨(skip_suffix flags rest).trans hsuffix, rfl, follows_skip ht (.append rest)⟩
  · have hcs : forall rest, flags.skip cs ≠ '^' :: rest := fun rest h => hcaret ⟨rest, h⟩
    rw [hother cs hcs, hother cs' (not_cons_of_follows ht (by decide) hskip hcs)]
    exact ⟨skip_suffix flags cs, rfl, hskip⟩

theorem follows_readFirstBracket {cs cs' : List Char} (h : Follows flags t cs cs')
    {negated : Bool} {parts : List ClassPart} {start : BracketStart}
    (hstart : readFirstBracket flags negated parts cs = .ok start) :
    start.rest <:+ cs ∧ exists rest', Follows flags t start.rest rest' ∧
      readFirstBracket flags negated parts cs' = .ok { start with rest := rest' } := by
  cases cs with
  | nil => cases hstart
  | cons c inner =>
      rw [h.cons]
      unfold readFirstBracket at hstart ⊢
      split at hstart
      · contradiction
      · rename_i rest heq
        cases heq
        split at hstart
        · rename_i hparts
          split at hstart
          · cases hstart
          · rename_i hnil
            cases hskip : flags.skip inner with
            | nil => exact absurd hskip hnil
            | cons d after =>
                rcases exists_cons_of_skip ht (@Follows.append flags t inner) hskip with
                  ⟨hskip', _hafter⟩
                cases hstart
                refine ⟨(skip_suffix flags inner).trans (List.suffix_cons ']' inner), _,
                  follows_skip ht (.append inner), (if_pos hparts).trans ?_⟩
                rw [hskip']
        · rename_i hparts
          cases hstart
          exact ⟨List.suffix_rfl, _, .append _, if_neg hparts⟩
      · rename_i _hnil hclose
        cases hstart
        refine ⟨List.suffix_rfl, _, .append _, ?_⟩
        split
        · contradiction
        · rename_i heq
          cases heq
          exact (hclose inner rfl).elim
        · rfl

theorem follows_bracketStart {cs cs' : List Char} (hfollows : Follows flags t cs cs')
    {start : BracketStart} (h : BracketStart.read flags cs = .ok start) :
    start.rest <:+ cs ∧ exists rest', Follows flags t start.rest rest' ∧
      BracketStart.read flags cs' = .ok { start with rest := rest' } := by
  rw [bracketStart_read_eq] at h ⊢
  rcases follows_readComplement ht hfollows with ⟨hcomplement, hnegated, hinner⟩
  rcases follows_readHyphens ht [] (Nat.lt_succ_self _) (Nat.lt_succ_self _) hinner with
    ⟨hhyphens, hparts, hafter⟩
  rcases follows_readFirstBracket ht hafter h with ⟨hsuffix, rest', hrest, hstart⟩
  rw [hnegated, hparts] at hstart
  exact ⟨(hsuffix.trans hhyphens).trans hcomplement, rest', hrest, hstart⟩

section Body

variable {fuel : Nat} {left : LeftOperand} {parts : List ClassPart} {cs inner rest : List Char}

omit ht in
theorem readClassBody_open (h : flags.skip cs = '[' :: inner) :
    readClassBody flags (fuel + 1) left parts cs =
      (match readNamedClass? inner with
      | some (cls, negated, rest) => do
          let cls ← finishClass flags negated cls
          readClassBody flags fuel left (⟨cls, 0⟩ :: parts) rest
      | none => do
          let start ← BracketStart.read flags inner
          let (inner, rest) ← readClassBody flags fuel none start.parts start.rest
          let cls ← finishClass flags start.negated inner.cls
          readClassBody flags fuel left (⟨cls, 1 + inner.depth⟩ :: parts) rest) := by
  rw [readClassBody, h]
  rfl

omit ht in
theorem readClassBody_other {c : Char} (h : flags.skip cs = c :: inner)
    (hc : c ≠ '[' ∧ c ≠ ']') :
    readClassBody flags (fuel + 1) left parts cs =
      (match ClassOperator.read (c :: inner) with
      | some (op, rest) =>
          readClassBody flags fuel (some (op, left.combine flags (ClassPart.union parts))) [] rest
      | none => do
          let (cls, rest) ← readClassRange flags (c :: inner)
          readClassBody flags fuel left (⟨cls, 0⟩ :: parts) rest) := by
  rw [readClassBody, h]
  split
  · contradiction
  · rename_i heq
    exact absurd (List.cons.inj heq).1 hc.1
  · rename_i heq
    exact absurd (List.cons.inj heq).1 hc.2
  · rename_i heq
    cases heq
    rfl

end Body

theorem steady_readClassBody {fuel more : Nat} (hmore : fuel ≤ more) (left : LeftOperand)
    (parts : List ClassPart) :
    Steady flags t (readClassBody flags fuel left parts) (readClassBody flags more left parts) := by
  induction fuel generalizing more left parts with
  | zero =>
      intro cs cs' a rest _hfollows h
      rw [readClassBody] at h
      cases h
  | succ fuel ih =>
      intro cs cs' a rest hfollows h
      rcases exists_succ_of_le hmore with ⟨more, rfl, hless⟩
      rw [readClassBody] at h
      split at h
      · cases h
      · rename_i inner hskip
        rcases exists_cons_of_skip ht hfollows hskip with ⟨hskip', hinner⟩
        have hnamedAppend := readNamedClass?_append ht inner
        split at h
        · rename_i cls negated after hnamed
          rw [hnamed] at hnamedAppend
          rcases exists_of_bind_eq_ok h with ⟨cls', hfinish, h⟩
          have hafter := readNamedClass?_suffix hnamed
          rcases ih hless _ _ _ _ _ _ (.append after) h with ⟨hsuffix, rest', hrest, hread⟩
          refine ⟨(hsuffix.trans hafter).trans hinner, rest', hrest, ?_⟩
          rw [readClassBody_open hskip', hnamedAppend]
          exact bind_eq_ok hfinish hread
        · rename_i hnamed
          rw [hnamed] at hnamedAppend
          rcases exists_of_bind_eq_ok h with ⟨start, hstart, h⟩
          rcases exists_of_bind_eq_ok h with ⟨⟨nested, after⟩, hnested, h⟩
          rcases exists_of_bind_eq_ok h with ⟨cls, hfinish, h⟩
          rcases follows_bracketStart ht (.append inner) hstart with
            ⟨hstartSuffix, start', hstartFollows, hstart'⟩
          rcases ih hless _ _ _ _ _ _ hstartFollows hnested with
            ⟨hnestedSuffix, after', hafter, hnested'⟩
          rcases ih hless _ _ _ _ _ _ hafter h with ⟨hsuffix, rest', hrest, hread⟩
          have hend := (hsuffix.trans hnestedSuffix).trans hstartSuffix
          refine ⟨hend.trans hinner, rest', hrest, ?_⟩
          rw [readClassBody_open hskip', hnamedAppend]
          exact bind_eq_ok hstart' (bind_eq_ok hnested' (bind_eq_ok hfinish hread))
      · rename_i inner hskip
        rcases exists_cons_of_skip ht hfollows hskip with ⟨hskip', hinner⟩
        cases h
        refine ⟨hinner, _, .append rest, ?_⟩
        rw [readClassBody, hskip']
        rfl
      · rename_i c inner hopen hclose hskip
        rcases exists_cons_of_skip ht hfollows hskip with ⟨hskip', hinner⟩
        have hoperatorAppend := classOperator_read_append ht c inner
        split at h
        · rename_i op after hoperator
          rw [hoperator] at hoperatorAppend
          have hafter := (classOperator_read_suffix hoperator).trans (suffix_of_skip hskip)
          rcases ih hless _ _ _ _ _ _ (.append after) h with ⟨hsuffix, rest', hrest, hread⟩
          refine ⟨hsuffix.trans hafter, rest', hrest, ?_⟩
          rw [readClassBody_other hskip' ⟨hopen, hclose⟩, hoperatorAppend]
          exact hread
        · rename_i hoperator
          rw [hoperator] at hoperatorAppend
          rcases exists_of_bind_eq_ok h with ⟨⟨cls, after⟩, hrange, h⟩
          rcases steady_readClassRange ht _ _ _ _ (.append (c :: inner)) hrange with
            ⟨hrangeSuffix, after', hafter, hrange'⟩
          rcases ih hless _ _ _ _ _ _ hafter h with ⟨hsuffix, rest', hrest, hread⟩
          have hend := (hsuffix.trans hrangeSuffix).trans (suffix_of_skip hskip)
          refine ⟨hend, rest', hrest, ?_⟩
          rw [readClassBody_other hskip' ⟨hopen, hclose⟩, hoperatorAppend]
          exact bind_eq_ok hrange' hread

theorem steady_readBracket : Steady flags t (readBracket flags) (readBracket flags) := by
  intro cs cs' a rest hfollows h
  rcases exists_of_bind_eq_ok h with ⟨start, hstart, h⟩
  rcases exists_of_bind_eq_ok h with ⟨⟨inner, after⟩, hbody, h⟩
  rcases exists_of_bind_eq_ok h with ⟨cls, hfinish, h⟩
  cases h
  rcases follows_bracketStart ht hfollows hstart with ⟨hstartSuffix, rest', hrest, hstart'⟩
  rcases steady_readClassBody ht (Nat.succ_le_succ hfollows.length_le) none start.parts _ _ _ _
    hrest hbody with ⟨hsuffix, after', hafter, hbody'⟩
  refine ⟨hsuffix.trans hstartSuffix, after', hafter, ?_⟩
  exact bind_eq_ok hstart' (bind_eq_ok hbody' (bind_eq_ok hfinish rfl))

end Behind
end Brackets

end Pattern
end AnalysisHarness
