import AnalysisHarness.Proofs.Pattern.Continuing.Expression
import AnalysisHarness.Proofs.Pattern.Holding

/-!
# Runs of the pattern reader

The reader takes one expression after the other. Its fuel never runs out, as every expression
takes at least one character, so that a reading is a run of expressions to the end of the text.
What one expression keeps is kept along a run, and a relation of two states that each of the
operations of the reader keeps makes the one state read whatever the other one reads.
-/

namespace AnalysisHarness
namespace Pattern

/-!
## Reading without fuel
-/

theorem behind_closing : Behind [')'] :=
  ⟨⟨')', [], rfl, Or.inr rfl⟩, by decide⟩

theorem readExpression_suffix {s s' : ReaderState} {c : Char} {rest after : List Char}
    (h : readExpression s c rest = .ok (s', after)) : after <:+ rest :=
  (follows_readExpression behind_closing h).1

theorem le_of_readBounds {flags : Flags} {cs rest : List Char} {least : Nat} {most : Option Nat}
    (h : readBounds flags cs = .ok (least, most, rest)) : forall n, n ∈ most -> least ≤ n :=
  (follows_readBounds behind_closing (.append cs) h).2.1

theorem readAll_eq_of_length_lt {fuel more : Nat} (s : ReaderState) {cs : List Char}
    (hfuel : cs.length < fuel) (hmore : fuel ≤ more) : readAll more s cs = readAll fuel s cs := by
  induction fuel generalizing more s cs with
  | zero => exact absurd hfuel (Nat.not_lt_zero _)
  | succ fuel ih =>
      rcases exists_succ_of_le hmore with ⟨more, rfl, hless⟩
      rw [readAll, readAll]
      split
      · rfl
      · rename_i c rest hskip
        cases hread : readExpression s c rest with
        | error e => rfl
        | ok read =>
            rcases read with ⟨s', after⟩
            have hshort := (readExpression_suffix hread).length_le
            have hrest := (suffix_of_skip hskip).length_le
            rw [List.length_cons] at hrest
            have hafter : after.length < fuel := by omega
            exact ih s' hafter hless

def readOn (s : ReaderState) (cs : List Char) : Except Fault ReaderState :=
  readAll (cs.length + 1) s cs

section Reading

variable {s s' : ReaderState} {c : Char} {cs rest after : List Char}

theorem readOn_of_skip_nil (hskip : s.group.flags.skip cs = []) : readOn s cs = .ok s := by
  rw [readOn, readAll, hskip]

theorem readOn_of_error {e : Fault} (hskip : s.group.flags.skip cs = c :: rest)
    (hread : readExpression s c rest = .error e) : readOn s cs = .error e := by
  rw [readOn, readAll, hskip]
  dsimp only
  rw [hread]
  rfl

theorem readOn_of_expression (hskip : s.group.flags.skip cs = c :: rest)
    (hread : readExpression s c rest = .ok (s', after)) : readOn s cs = readOn s' after := by
  have hshort := (readExpression_suffix hread).length_le
  have hrest := (suffix_of_skip hskip).length_le
  rw [List.length_cons] at hrest
  rw [readOn, readAll, hskip]
  dsimp only
  rw [hread]
  exact readAll_eq_of_length_lt s' (Nat.lt_succ_self _) (by omega)

end Reading

/-- Expressions read in a row, and what is left of the text after them. -/
inductive Leads : ReaderState -> List Char -> ReaderState -> List Char -> Prop
  | refl (s : ReaderState) (cs : List Char) : Leads s cs s cs
  | step {s mid s' : ReaderState} {c : Char} {cs rest between after : List Char}
      (hskip : s.group.flags.skip cs = c :: rest)
      (hread : readExpression s c rest = .ok (mid, between))
      (hleads : Leads mid between s' after) : Leads s cs s' after

theorem Leads.readOn_eq {s s' : ReaderState} {cs after : List Char} (h : Leads s cs s' after) :
    readOn s cs = readOn s' after := by
  induction h with
  | refl s cs => rfl
  | step hskip hread hleads ih => exact (readOn_of_expression hskip hread).trans ih

/-- A reading that succeeds is a run to where only blanks and comments are left. -/
theorem exists_leads_of_readOn {s s' : ReaderState} {cs : List Char} (h : readOn s cs = .ok s') :
    exists after, Leads s cs s' after ∧ s'.group.flags.skip after = [] := by
  generalize hlength : cs.length = length
  induction length using Nat.strongRecOn generalizing s cs with
  | ind length ih =>
      cases hskip : s.group.flags.skip cs with
      | nil =>
          rw [readOn_of_skip_nil hskip] at h
          cases h
          exact ⟨cs, .refl _ cs, hskip⟩
      | cons c rest =>
          cases hread : readExpression s c rest with
          | error e =>
              rw [readOn_of_error hskip hread] at h
              cases h
          | ok read =>
              rcases read with ⟨mid, between⟩
              have hshort := (readExpression_suffix hread).length_le
              have hrest := (suffix_of_skip hskip).length_le
              rw [List.length_cons] at hrest
              rw [readOn_of_expression hskip hread] at h
              rcases ih between.length (by omega) h rfl with ⟨after, hleads, hend⟩
              exact ⟨after, .step hskip hread hleads, hend⟩

theorem Leads.follows {t : List Char} (ht : Behind t) {s s' : ReaderState} {cs after : List Char}
    (h : Leads s cs s' after) {cs' : List Char} (hfollows : Follows s.group.flags t cs cs') :
    exists after', Follows s'.group.flags t after after' ∧ Leads s cs' s' after' := by
  induction h generalizing cs' with
  | refl s cs => exact ⟨cs', hfollows, .refl s cs'⟩
  | step hskip hread hleads ih =>
      have hskip' := (exists_cons_of_skip ht hfollows hskip).1
      rcases (follows_readExpression ht hread).2 with ⟨between', hbetween, hread'⟩
      rcases ih hbetween with ⟨after', hafter, hleads'⟩
      exact ⟨after', hafter, .step hskip' hread' hleads'⟩

end Pattern
end AnalysisHarness
