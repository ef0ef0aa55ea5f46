import AnalysisHarness.Pattern.Reader
import AnalysisHarness.Proofs.Outcome

/-!
# Patterns that go on

An expression that has been read to its end is read the same where the pattern goes on with a bar
or a closing parenthesis, for neither of these can belong to it. Only where blanks and comments
do not count can a comment at the end swallow what follows up to the next line feed.
-/

namespace AnalysisHarness
namespace Pattern

open Unicode

/-- What can stand behind an alternative: a bar or a closing parenthesis, and no line feed. -/
structure Behind (t : List Char) : Prop where
  head : exists c rest, t = c :: rest ∧ (c = '|' ∨ c = ')')
  line : '\n' ∉ t

/--
How a text goes on with `t`: as itself with `t` behind it, or, at its end in a comment, with
nothing.
-/
inductive Follows (flags : Flags) (t : List Char) : List Char -> List Char -> Prop
  | append (cs : List Char) : Follows flags t cs (cs ++ t)
  | swallowed (h : flags.extended = true) : Follows flags t [] []

/--
A reader takes the same from the beginning of a text where the text goes on with `t`, and leaves
what goes on with `t`. The second reader may have more fuel than the first one.
-/
def Steady {α : Type} (flags : Flags) (t : List Char)
    (read again : List Char -> Except Fault (α × List Char)) : Prop :=
  forall cs cs' a rest, Follows flags t cs cs' -> read cs = .ok (a, rest) ->
    rest <:+ cs ∧ exists rest', Follows flags t rest rest' ∧ again cs' = .ok (a, rest')

theorem exists_succ_of_le {fuel more : Nat} (h : fuel + 1 ≤ more) :
    exists more', more = more' + 1 ∧ fuel ≤ more' := by
  cases more with
  | zero => exact absurd h (Nat.not_succ_le_zero fuel)
  | succ more => exact ⟨more, rfl, Nat.le_of_succ_le_succ h⟩

section Readers

variable {flags : Flags} {t : List Char}

/-!
## Blanks and comments
-/

theorem Follows.cons {c : Char} {cs cs' : List Char} (h : Follows flags t (c :: cs) cs') :
    cs' = c :: (cs ++ t) := by
  cases h
  rfl

theorem Follows.nil {cs : List Char} (h : Follows flags t [] cs) :
    cs = t ∨ flags.extended = true ∧ cs = [] := by
  cases h with
  | append => exact Or.inl rfl
  | swallowed hextended => exact Or.inr ⟨hextended, rfl⟩

theorem Follows.length_le {cs cs' : List Char} (h : Follows flags t cs cs') :
    cs.length ≤ cs'.length := by
  cases h with
  | append =>
      rw [List.length_append]
      exact Nat.le_add_right cs.length t.length
  | swallowed => exact Nat.le_refl 0

theorem skipBlanks_suffix (inComment : Bool) (cs : List Char) :
    skipBlanks inComment cs <:+ cs := by
  induction cs generalizing inComment with
  | nil => exact List.suffix_rfl
  | cons c cs ih =>
      have hcons := List.suffix_cons c cs
      rw [skipBlanks]
      split
      · exact (ih _).trans hcons
      · split
        · exact (ih false).trans hcons
        · split
          · exact (ih true).trans hcons
          · exact List.suffix_rfl

theorem skip_suffix (flags : Flags) (cs : List Char) : flags.skip cs <:+ cs := by
  rw [Flags.skip]
  split
  · exact skipBlanks_suffix false cs
  · exact List.suffix_rfl

theorem skipBlanks_true_of_not_mem {cs : List Char} (h : '\n' ∉ cs) : skipBlanks true cs = [] := by
  induction cs with
  | nil => rw [skipBlanks]
  | cons c cs ih =>
      have hc : (c != '\n') = true := bne_iff_ne.mpr (List.ne_of_not_mem_cons h).symm
      rw [skipBlanks, if_pos rfl, hc]
      exact ih (List.not_mem_of_not_mem_cons h)

theorem suffix_of_skip {cs rest : List Char} {c : Char} (h : flags.skip cs = c :: rest) :
    c :: rest <:+ cs := by
  rw [← h]
  exact skip_suffix flags cs

section Behind

variable (ht : Behind t)
include ht

theorem skipBlanks_behind (inComment : Bool) :
    skipBlanks inComment t = t ∨ skipBlanks inComment t = [] := by
  cases inComment with
  | true => exact Or.inr (skipBlanks_true_of_not_mem ht.line)
  | false =>
      rcases ht.head with ⟨c, rest, rfl, rfl | rfl⟩
      · exact Or.inl rfl
      · exact Or.inl rfl

theorem skipBlanks_append (inComment : Bool) (cs : List Char) :
    skipBlanks inComment (cs ++ t) = skipBlanks inComment cs ++ t ∨
      skipBlanks inComment cs = [] ∧ skipBlanks inComment (cs ++ t) = [] := by
  induction cs generalizing inComment with
  | nil =>
      have hnil : skipBlanks inComment [] = [] := by rw [skipBlanks]
      rw [hnil]
      exact (skipBlanks_behind ht inComment).imp_right fun h => ⟨rfl, h⟩
  | cons c cs ih =>
      rw [List.cons_append, skipBlanks, skipBlanks]
      split
      · exact ih _
      · split
        · exact ih false
        · split
          · exact ih true
          · exact Or.inl rfl

theorem follows_skip {cs cs' : List Char} (h : Follows flags t cs cs') :
    Follows flags t (flags.skip cs) (flags.skip cs') := by
  rw [Flags.skip, Flags.skip]
  split
  · rename_i hextended
    cases h with
    | swallowed =>
        rw [skipBlanks]
        exact .swallowed hextended
    | append =>
        rcases skipBlanks_append ht false cs with happend | ⟨hnil, hswallowed⟩
        · rw [happend]
          exact .append _
        · rw [hnil, hswallowed]
          exact .swallowed hextended
  · exact h

theorem dropWhile_isBlank_append (cs : List Char) :
    (cs ++ t).dropWhile Text.isBlank = cs.dropWhile Text.isBlank ++ t := by
  rw [List.dropWhile_append]
  split
  · rename_i hempty
    rw [List.isEmpty_iff.mp hempty]
    rcases ht.head with ⟨c, rest, rfl, rfl | rfl⟩
    · rfl
    · rfl
  · rfl

theorem follows_dropWhile_isBlank {cs cs' : List Char} (h : Follows flags t cs cs') :
    Follows flags t (cs.dropWhile Text.isBlank) (cs'.dropWhile Text.isBlank) := by
  cases h with
  | swallowed hextended => exact .swallowed hextended
  | append =>
      rw [dropWhile_isBlank_append ht cs]
      exact .append _

theorem exists_cons_of_skip {cs cs' : List Char} (h : Follows flags t cs cs') {c : Char}
    {rest : List Char} (hskip : flags.skip cs = c :: rest) :
    flags.skip cs' = c :: (rest ++ t) ∧ rest <:+ cs := by
  have hfollows := follows_skip ht h
  rw [hskip] at hfollows
  exact ⟨hfollows.cons, (List.suffix_cons c rest).trans (suffix_of_skip hskip)⟩

theorem not_cons_of_follows {c : Char} (hc : c ≠ '|' ∧ c ≠ ')') {cs cs' : List Char}
    (h : Follows flags t cs cs') (hcs : forall inner, cs ≠ c :: inner) :
    forall inner, cs' ≠ c :: inner := by
  intro inner hinner
  cases h with
  | swallowed => cases hinner
  | append =>
      cases cs with
      | nil =>
          rcases ht.head with ⟨d, rest, rfl, hd⟩
          cases hinner
          exact hd.elim hc.1 hc.2
      | cons d cs =>
          cases hinner
          exact hcs cs rfl

/-!
## Characters of one kind
-/

def skim {α : Type} (flags : Flags) (kind : Char -> Bool) (add : α -> Char -> α) :
    Nat -> α -> List Char -> α × List Char
  | 0, taken, cs => (taken, cs)
  | _ + 1, taken, [] => (taken, [])
  | fuel + 1, taken, c :: rest =>
      if kind c then skim flags kind add fuel (add taken c) (flags.skip rest)
      else (taken, c :: rest)

section Skim

variable {α : Type} {kind : Char -> Bool} {add : α -> Char -> α}

omit ht in
theorem skim_of_not_kind {c : Char} (hc : kind c = false) (fuel : Nat) (taken : α)
    (rest : List Char) : skim flags kind add fuel taken (c :: rest) = (taken, c :: rest) := by
  cases fuel with
  | zero => rfl
  | succ fuel => exact if_neg (Bool.eq_false_iff.mp hc)

omit ht in
theorem skim_nil (fuel : Nat) (taken : α) : skim flags kind add fuel taken [] = (taken, []) := by
  cases fuel with
  | zero => rfl
  | succ fuel => rfl

theorem follows_skim (hkind : kind '|' = false ∧ kind ')' = false) {fuel more : Nat} (taken : α)
    {cs cs' : List Char} (hfuel : cs.length < fuel) (hmore : cs'.length < more)
    (hfollows : Follows flags t cs cs') :
    (skim flags kind add fuel taken cs).2 <:+ cs ∧
    (skim flags kind add fuel taken cs).1 = (skim flags kind add more taken cs').1 ∧
    Follows flags t (skim flags kind add fuel taken cs).2
      (skim flags kind add more taken cs').2 := by
  induction fuel generalizing more taken cs cs' with
  | zero => exact absurd hfuel (Nat.not_lt_zero _)
  | succ fuel ih =>
      rcases exists_succ_of_le hmore with ⟨more, rfl, hless⟩
      cases cs with
      | nil =>
          rw [skim_nil]
          cases hfollows with
          | swallowed hextended =>
              rw [skim_nil]
              exact ⟨List.suffix_rfl, rfl, .swallowed hextended⟩
          | append =>
              rcases ht.head with ⟨c, rest, rfl, rfl | rfl⟩
              · rw [List.nil_append, skim_of_not_kind hkind.1]
                exact ⟨List.suffix_rfl, rfl, .append []⟩
              · rw [List.nil_append, skim_of_not_kind hkind.2]
                exact ⟨List.suffix_rfl, rfl, .append []⟩
      | cons c cs =>
          rw [hfollows.cons] at hless ⊢
          rw [skim, skim]
          split
          · have hskip := follows_skip ht (@Follows.append flags t cs)
            have hshort := (skip_suffix flags cs).length_le
            have hshort' := (skip_suffix flags (cs ++ t)).length_le
            rcases @ih more (add taken c) _ _
              (Nat.lt_of_le_of_lt hshort (Nat.lt_of_succ_lt_succ hfuel))
              (Nat.lt_of_le_of_lt hshort' hless) hskip with ⟨hsuffix, hboth⟩
            exact ⟨(hsuffix.trans (skip_suffix flags cs)).trans (List.suffix_cons c cs), hboth⟩
          · exact ⟨List.suffix_rfl, rfl, .append (c :: cs)⟩

end Skim

end Behind
end Readers

end Pattern
end AnalysisHarness
