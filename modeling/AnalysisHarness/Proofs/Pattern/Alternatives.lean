import AnalysisHarness.Proofs.Pattern.Inside
import AnalysisHarness.Proofs.Pattern.Parts
import AnalysisHarness.Pattern

/-!
# Alternatives on lines of their own

Ignore text is read as one group in which its lines stand as alternatives, with a bar between any
two. Nothing keeps a line from reaching past its end: it can set flags for the lines after it, close
the group or leave a group, a bracket or an escape open, or take a name that another line takes.
Lines that do none of this are read one by one, and the pattern matches what any of them matches.
-/

namespace AnalysisHarness
namespace Pattern

/-!
## Lines that keep to themselves
-/

/-- A line that, read by itself, closes the groups it opens, and no others. -/
structure Whole (line : List Char) (s : ReaderState) : Prop where
  read : readOn .start line = .ok s
  outer : s.outer = []

def lineGroup : OpenGroup :=
  ⟨{}, [], [⟨.look .textStart, 0, true⟩]⟩

def atAlternative (finished : List Part) (taken : List (List Char)) : ReaderState :=
  ⟨⟨{}, finished, []⟩, [lineGroup], taken⟩

/-- A line that is refused in a pattern whatever is written behind it. -/
def Hopeless (line : List Char) : Prop :=
  forall more, exists e, readOn (atAlternative [] []) (line ++ more) = .error e

/--
Lines none of which reaches past its end: each of them is refused for good, or closes what it
opens, leaves the flags alone where another line follows, and gives no name that another line gives.
-/
structure Separate (lines : List (List Char)) : Prop where
  each : forall line, line ∈ lines -> Hopeless line ∨ exists s, Whole line s
  flags : forall line, line ∈ lines.dropLast -> forall s, Whole line s -> s.group.flags = {}
  names : lines.Pairwise fun a b =>
    forall s u, Whole a s -> Whole b u -> forall name, name ∈ u.names -> name ∉ s.names

/-!
## The end of a pattern
-/

def atEnd (finished : List Part) (taken : List (List Char)) : ReaderState :=
  ReaderState.push ⟨lineGroup, [], taken⟩
    ⟨(Part.join Node.altAll finished).node, 1 + (Part.join Node.altAll finished).depth, true⟩

def wholePart (finished : List Part) : Part :=
  (atEnd finished []).group.close

def limited (part : Part) : Except Fault Node :=
  if depthLimit < part.depth then .error .tooDeep
  else if weightLimit < part.node.weight then .error .tooLarge
  else .ok part.node

def finish (s : ReaderState) : Except Fault Node :=
  if !s.outer.isEmpty then .error .unclosedGroup else limited s.group.close

def readLines (finished : List Part) (taken : List (List Char)) (cs : List Char) :
    Except Fault Node :=
  readOn (atAlternative finished taken) (cs ++ [')']) >>= finish

theorem finish_atEnd (finished : List Part) (taken : List (List Char)) :
    finish (atEnd finished taken) = limited (wholePart finished) := rfl

theorem read_anchored (cs : List Char) :
    Node.read ("^(?:".toList ++ cs ++ ")".toList) = readLines [] [] cs := by
  have hopen : readOn .start ("^(?:".toList ++ cs ++ ")".toList) =
      readOn (atAlternative [] []) (cs ++ [')']) := by
    have hlook : readExpression .start '^' ('(' :: '?' :: ':' :: (cs ++ [')'])) =
        .ok (ReaderState.start.pushLook .textStart, '(' :: '?' :: ':' :: (cs ++ [')'])) := rfl
    have hgroup : readExpression (ReaderState.start.pushLook .textStart) '('
        ('?' :: ':' :: (cs ++ [')'])) = .ok (atAlternative [] [], cs ++ [')']) := rfl
    exact (readOn_of_expression rfl hlook).trans (readOn_of_expression rfl hgroup)
  have hread : Node.read ("^(?:".toList ++ cs ++ ")".toList) =
      readOn .start ("^(?:".toList ++ cs ++ ")".toList) >>= finish := rfl
  rw [hread, hopen, readLines]

theorem toList_anchored (text : String) :
    (anchored text).toList = "^(?:".toList ++ text.toList ++ ")".toList := by
  rw [anchored, String.toList_append, String.toList_append]

theorem compile_eq (text : String) :
    compile text = ((readLines [] [] text.toList).mapError fun fault =>
      .mk fault (anchored text)).map Pattern.mk := by
  rw [compile, toList_anchored, read_anchored]

/-!
## One line in the group
-/

theorem within_start (finished : List Part) (taken : List (List Char)) :
    Within finished lineGroup taken .start (atAlternative finished taken) :=
  ⟨.bottom _, rfl⟩

def standing (s : ReaderState) (finished : List Part) (taken : List (List Char)) : ReaderState :=
  ⟨{ s.group with alternatives := s.group.alternatives ++ finished }, [lineGroup],
    s.names ++ taken⟩

structure Alone (line : List Char) (parts : List Part) : Prop where
  ne_nil : parts ≠ []
  proper : forall part, part ∈ parts -> part.node.Proper
  read : readLines [] [] line = limited (wholePart parts)

section Line

variable {line : List Char} {s : ReaderState} (h : Whole line s)
include h

/-- A whole line is read to its end, or on to the end of all where it ends in a comment. -/
theorem Whole.leads {t : List Char} (ht : Behind t) :
    exists after, Leads .start (line ++ t) s after ∧ (s.group.flags.skip after = t ∨
      s.group.flags.extended = true ∧ s.group.flags.skip after = []) := by
  rcases exists_leads_of_readOn h.read with ⟨after, hleads, hend⟩
  rcases hleads.follows ht (.append line) with ⟨after', hafter, hleads'⟩
  have hskip := follows_skip ht hafter
  rw [hend] at hskip
  exact ⟨after', hleads', hskip.nil⟩

theorem Whole.leads_standing {cs after : List Char} (hleads : Leads .start cs s after)
    (finished : List Part) {taken : List (List Char)}
    (hnames : forall name, name ∈ s.names -> name ∉ taken) :
    Leads (atAlternative finished taken) cs (standing s finished taken) after := by
  rcases simulation_within.leads (within_start finished taken) hleads hnames with
    ⟨u, hleads', hwithin⟩
  rw [standing, ← hwithin.eq_of_outer_nil h.outer]
  exact hleads'

theorem Whole.readOn_bar (hflags : s.group.flags = {}) (finished : List Part)
    {taken : List (List Char)} (hnames : forall name, name ∈ s.names -> name ∉ taken)
    {rest : List Char} (hrest : '\n' ∉ rest) :
    readOn (atAlternative finished taken) (line ++ '|' :: rest) =
      readOn (atAlternative (s.group.finished ++ finished) (s.names ++ taken)) rest := by
  have ht : Behind ('|' :: rest) :=
    ⟨⟨'|', rest, rfl, Or.inl rfl⟩, List.not_mem_cons_of_ne_of_not_mem (by decide) hrest⟩
  rcases h.leads ht with ⟨after, hleads, hskip | ⟨hextended, _hskip⟩⟩
  · have hbar : readExpression (standing s finished taken) '|' rest =
        .ok (atAlternative (s.group.finished ++ finished) (s.names ++ taken), rest) := by
      rw [atAlternative, ← hflags]
      rfl
    rw [(h.leads_standing hleads finished hnames).readOn_eq]
    exact readOn_of_expression hskip hbar
  · rw [hflags] at hextended
    cases hextended

theorem Whole.readLines_bar (hflags : s.group.flags = {}) (finished : List Part)
    {taken : List (List Char)} (hnames : forall name, name ∈ s.names -> name ∉ taken)
    {rest : List Char} (hrest : '\n' ∉ rest) :
    readLines finished taken (line ++ ['|'] ++ rest) =
      readLines (s.group.finished ++ finished) (s.names ++ taken) rest := by
  have hread := h.readOn_bar hflags finished hnames
    (List.not_mem_append hrest (by decide : '\n' ∉ [')']))
  rw [readLines, readLines, ← hread, List.append_assoc, List.append_assoc]
  rfl

theorem Whole.proper_finished : forall part, part ∈ s.group.finished -> part.node.Proper := by
  rcases exists_leads_of_readOn h.read with ⟨after, hleads, _hend⟩
  have hstart : ReaderState.start.Proper := ⟨OpenGroup.proper_start _, List.forall_mem_nil _⟩
  exact fun part hpart => (invariant_proper.leads hstart hleads).group.finished hpart

/-- At the end of the pattern a line either closes the group or, in a comment, hides its end. -/
theorem Whole.readLines_last :
    (Alone line s.group.finished ∧
      forall finished taken, (forall name, name ∈ s.names -> name ∉ taken) ->
        readLines finished taken line = limited (wholePart (s.group.finished ++ finished))) ∨
    (s.group.flags ≠ {} ∧
      forall finished taken, (forall name, name ∈ s.names -> name ∉ taken) ->
        readLines finished taken line = .error .unclosedGroup) := by
  rcases h.leads behind_closing with ⟨after, hleads, hskip | ⟨hextended, hskip⟩⟩
  · have hlast : forall finished taken, (forall name, name ∈ s.names -> name ∉ taken) ->
        readLines finished taken line = limited (wholePart (s.group.finished ++ finished)) := by
      intro finished taken hnames
      have hclose : readExpression (standing s finished taken) ')' [] =
          .ok (atEnd (s.group.finished ++ finished) (s.names ++ taken), []) := rfl
      have hend : readOn (standing s finished taken) after =
          readOn (atEnd (s.group.finished ++ finished) (s.names ++ taken)) [] :=
        readOn_of_expression hskip hclose
      have hread : readOn (atAlternative finished taken) (line ++ [')']) =
          .ok (atEnd (s.group.finished ++ finished) (s.names ++ taken)) := by
        rw [(h.leads_standing hleads finished hnames).readOn_eq, hend]
        exact readOn_of_skip_nil rfl
      rw [readLines, hread]
      exact finish_atEnd _ _
    have halone := hlast [] [] fun _ _ => List.not_mem_nil
    rw [List.append_nil] at halone
    exact Or.inl ⟨⟨List.cons_ne_nil _ _, h.proper_finished, halone⟩, hlast⟩
  · refine Or.inr ⟨?_, ?_⟩
    · intro hflags
      rw [hflags] at hextended
      cases hextended
    · intro finished taken hnames
      have hread : readOn (atAlternative finished taken) (line ++ [')']) =
          .ok (standing s finished taken) := by
        rw [(h.leads_standing hleads finished hnames).readOn_eq]
        exact readOn_of_skip_nil hskip
      rw [readLines, hread]
      rfl

end Line

/-- What is refused in a pattern is refused after other alternatives, too. -/
theorem Hopeless.readOn_error {line : List Char} (h : Hopeless line) (finished : List Part)
    (taken : List (List Char)) (more : List Char) :
    exists e, readOn (atAlternative finished taken) (line ++ more) = .error e := by
  have halike : (atAlternative finished taken).Alike (atAlternative [] []) :=
    ⟨⟨rfl, rfl⟩, .cons ⟨rfl, rfl⟩ .nil, List.nil_subset taken⟩
  cases hread : readOn (atAlternative finished taken) (line ++ more) with
  | error e => exact ⟨e, rfl⟩
  | ok s' =>
      rcases halike.readOn_eq_ok hread with ⟨u', hread'⟩
      rcases h more with ⟨e, herror⟩
      rw [herror] at hread'
      cases hread'

theorem Hopeless.readLines_error {line : List Char} (h : Hopeless line) (finished : List Part)
    (taken : List (List Char)) (more : List Char) :
    exists e, readLines finished taken (line ++ more) = .error e := by
  rcases h.readOn_error finished taken (more ++ [')']) with ⟨e, herror⟩
  refine ⟨e, ?_⟩
  rw [readLines, List.append_assoc, herror]
  rfl

/-!
## All lines in the group
-/

theorem Separate.tail {line next : List Char} {others : List (List Char)}
    (h : Separate (line :: next :: others)) : Separate (next :: others) :=
  ⟨fun a ha => h.each a (List.mem_cons_of_mem line ha),
    fun a ha => h.flags a (List.mem_cons_of_mem line ha), h.names.tail⟩

theorem not_mem_joinSegments {lines : List (List Char)}
    (h : forall line, line ∈ lines -> '\n' ∉ line) : '\n' ∉ Text.joinSegments ['|'] lines := by
  induction lines with
  | nil => exact List.not_mem_nil
  | cons line others ih =>
      rw [List.forall_mem_cons] at h
      cases others with
      | nil => exact h.1
      | cons next others =>
          rw [Text.joinSegments_cons_cons]
          exact List.not_mem_append (List.not_mem_append h.1 (by decide)) (ih h.2)

theorem Hopeless.readLines_join_error {line : List Char} (h : Hopeless line)
    (others : List (List Char)) (finished : List Part) (taken : List (List Char)) :
    exists e, readLines finished taken (Text.joinSegments ['|'] (line :: others)) = .error e := by
  cases others with
  | nil =>
      rcases h.readLines_error finished taken [] with ⟨e, herror⟩
      rw [List.append_nil] at herror
      exact ⟨e, herror⟩
  | cons next others =>
      rw [Text.joinSegments_cons_cons, List.append_assoc]
      exact h.readLines_error finished taken _

/--
The lines are read one by one: either all of them are read, and the alternatives of the whole are
theirs, or some line is refused, and the whole is, too.
-/
theorem readLines_joinSegments {lines : List (List Char)} (hne : lines ≠ [])
    (hseparate : Separate lines) (hlines : forall line, line ∈ lines -> '\n' ∉ line)
    (finished : List Part) {taken : List (List Char)}
    (hnames : forall line, line ∈ lines -> forall s, Whole line s ->
      forall name, name ∈ s.names -> name ∉ taken) :
    (exists each, List.Forall₂ Alone lines each ∧
      readLines finished taken (Text.joinSegments ['|'] lines) =
        limited (wholePart (each.reverse.flatten ++ finished))) ∨
    ((exists e, readLines finished taken (Text.joinSegments ['|'] lines) = .error e) ∧
      exists line, line ∈ lines ∧ exists e, readLines [] [] line = .error e) := by
  induction lines generalizing finished taken with
  | nil => exact absurd rfl hne
  | cons line others ih =>
      rcases hseparate.each line List.mem_cons_self with hhopeless | ⟨s, hwhole⟩
      · exact Or.inr ⟨hhopeless.readLines_join_error others finished taken, line,
          List.mem_cons_self, hhopeless.readLines_join_error [] [] []⟩
      · have hnow := hnames line List.mem_cons_self s hwhole
        cases others with
        | nil =>
            rcases hwhole.readLines_last with ⟨halone, hread⟩ | ⟨_hflags, hread⟩
            · refine Or.inl ⟨[s.group.finished], .cons halone .nil, ?_⟩
              rw [List.reverse_singleton, List.flatten_singleton]
              exact hread finished taken hnow
            · exact Or.inr ⟨⟨_, hread finished taken hnow⟩, line, List.mem_cons_self, _,
                hread [] [] fun _ _ => List.not_mem_nil⟩
        | cons next others =>
            have hflags := hseparate.flags line List.mem_cons_self s hwhole
            have halone : Alone line s.group.finished := by
              rcases hwhole.readLines_last with ⟨halone, _hread⟩ | ⟨hother, _hread⟩
              · exact halone
              · exact absurd hflags hother
            have hothers : forall b, b ∈ next :: others -> forall u, Whole b u ->
                forall name, name ∈ u.names -> name ∉ s.names ++ taken := by
              intro b hb u hu name hname
              have hnew := List.rel_of_pairwise_cons hseparate.names hb s u hwhole hu name hname
              exact List.not_mem_append hnew
                (hnames b (List.mem_cons_of_mem line hb) u hu name hname)
            rw [List.forall_mem_cons] at hlines
            rw [Text.joinSegments_cons_cons,
              hwhole.readLines_bar hflags finished hnow (not_mem_joinSegments hlines.2)]
            rcases ih (List.cons_ne_nil next others) hseparate.tail hlines.2
              (s.group.finished ++ finished) hothers with
            ⟨each, heach, hread⟩ | ⟨herror, b, hb, hbad⟩
            · refine Or.inl ⟨s.group.finished :: each, .cons halone heach, ?_⟩
              rw [hread, List.reverse_cons, List.flatten_append, List.flatten_singleton,
                List.append_assoc]
            · exact Or.inr ⟨herror, b, List.mem_cons_of_mem line hb, hbad⟩

end Pattern
end AnalysisHarness
