import AnalysisHarness.Log.Reading
import AnalysisHarness.Proofs.Log.Scan
import AnalysisHarness.Proofs.Pattern.IgnoreText

/-!
# Plain text as a pattern

Text without signs that mean something in a pattern is read character by character. As a pattern it
matches the lines that begin with it, and behind a run of any characters it matches the lines that
hold it.
-/

namespace AnalysisHarness
namespace Pattern

/-!
## Reading
-/

def metacharacters : List Char :=
  ['\\', '.', '+', '*', '?', '(', ')', '|', '[', ']', '{', '}', '^', '$']

/-- A text in which every character stands for itself. -/
def IsPlain (cs : List Char) : Prop :=
  forall c, c ∈ cs -> c ∉ metacharacters

instance (cs : List Char) : Decidable (IsPlain cs) :=
  List.decidableBAll (fun c => c ∉ metacharacters) cs

def literalPart (c : Char) : Part := ⟨.char c, 0, true⟩

def runPart : Part := ⟨.feedless, 1, true⟩

def afterParts (parts : List Part) : ReaderState := ⟨⟨{}, [], parts.reverse⟩, [], []⟩

theorem readExpression_literal {s : ReaderState} {c : Char} (hc : c ∉ metacharacters)
    (hflags : s.group.flags = {}) (rest : List Char) :
    readExpression s c rest = .ok (s.push (literalPart c), rest) := by
  have hliteral : s.pushLiteral c = s.push (literalPart c) := by
    rw [ReaderState.pushLiteral, hflags]
    rfl
  unfold readExpression
  -- every case but the last is that of a sign with a meaning
  split
  all_goals try exact absurd (by decide) hc
  rw [hliteral]

theorem afterParts_push (parts : List Part) (part : Part) :
    (afterParts parts).push part = afterParts (parts ++ [part]) := by
  rw [afterParts, afterParts, List.reverse_append]
  rfl

theorem readOn_literals (parts : List Part) {cs : List Char} (h : IsPlain cs) :
    readOn (afterParts parts) cs = .ok (afterParts (parts ++ cs.map literalPart)) := by
  induction cs generalizing parts with
  | nil =>
      rw [List.map_nil, List.append_nil]
      exact readOn_of_skip_nil rfl
  | cons c cs ih =>
      rcases List.forall_mem_cons.mp h with ⟨hc, hcs⟩
      rw [readOn_of_expression rfl (readExpression_literal hc rfl cs), afterParts_push, ih _ hcs,
        List.append_assoc]
      rfl

theorem readOn_run {cs : List Char} (h : dropLazy cs = cs) :
    readOn (afterParts []) ('.' :: '*' :: cs) = readOn (afterParts [runPart]) cs := by
  have hdot : readExpression (afterParts []) '.' ('*' :: cs) =
      .ok (afterParts [⟨.one (.compl (.single 10)), 0, true⟩], '*' :: cs) := rfl
  have hstar : readExpression (afterParts [⟨.one (.compl (.single 10)), 0, true⟩]) '*' cs =
      .ok (afterParts [runPart], dropLazy cs) := rfl
  rw [readOn_of_expression rfl hdot, readOn_of_expression rfl hstar, h]

theorem dropLazy_of_plain {cs : List Char} (h : IsPlain cs) : dropLazy cs = cs := by
  unfold dropLazy
  split
  · exact absurd (by decide) (h '?' List.mem_cons_self)
  · rfl

theorem node_join_seqAll (parts : List Part) :
    (Part.join Node.seqAll parts.reverse).node = Node.seqAll (parts.map Part.node) := by
  unfold Part.join
  split
  · rename_i hnil
    rw [List.reverse_eq_nil_iff.mp hnil]
    rfl
  · rename_i only hone
    rw [List.reverse_eq_iff.mp hone]
    rfl
  · rw [List.reverse_reverse]

/-- A text that is read to shallow parts is a pattern, if it is not too large. -/
theorem compile_of_parts {text : String} {parts : List Part}
    (hread : readOn (afterParts []) text.toList = .ok (afterParts parts))
    (hdepth : forall part, part ∈ parts -> part.depth ≤ 1) :
    compile text =
      if weightLimit < 32 + (Node.seqAll (parts.map Part.node)).weight then
        .error ⟨.tooLarge, anchored text⟩
      else .ok ⟨.seq (.look .textStart) (Node.seqAll (parts.map Part.node))⟩ := by
  have hwhole : Whole text.toList (afterParts parts) := ⟨hread, rfl⟩
  rcases hwhole.readLines_last with ⟨halone, _hlast⟩ | ⟨hflags, _hlast⟩
  · have hreverse : forall part, part ∈ parts.reverse -> part.depth ≤ 1 :=
      fun part hpart => hdepth part (List.mem_reverse.mp hpart)
    have hjoin := Part.depth_join_le_of_forall Node.seqAll hreverse
    have hdepths : (wholePart (afterParts parts).group.finished).depth =
      (Part.join Node.seqAll parts.reverse).depth + 2 := depth_wholePart _
    have hlimit : depthLimit = 250 := rfl
    have hnode : (wholePart (afterParts parts).group.finished).node =
        .seq (.look .textStart) (Node.seqAll (parts.map Part.node)) := by
      rw [← node_join_seqAll]
      rfl
    have hcompile := halone.compile_eq
    rw [String.ofList_toList, limited, if_neg (by omega), hnode] at hcompile
    rw [hcompile]
    change Except.map Pattern.mk (Except.mapError _
      (if weightLimit < 32 + (Node.seqAll (parts.map Part.node)).weight then _ else _)) = _
    split <;> rfl
  · exact absurd rfl hflags

theorem compile_plain {text : String} (h : IsPlain text.toList) :
    compile text =
      if weightLimit < 32 + (Node.seqAll (text.toList.map Node.char)).weight then
        .error ⟨.tooLarge, anchored text⟩
      else .ok ⟨.seq (.look .textStart) (Node.seqAll (text.toList.map Node.char))⟩ := by
  have hparts : forall part, part ∈ text.toList.map literalPart -> part.depth ≤ 1 := by
    intro part hpart
    rcases List.mem_map.mp hpart with ⟨c, _hc, rfl⟩
    exact Nat.zero_le 1
  have hcompile := compile_of_parts (readOn_literals [] h) hparts
  rwa [List.nil_append, List.map_map] at hcompile

theorem compile_run_plain {text : String} (h : IsPlain text.toList) :
    compile (".*" ++ text) =
      if weightLimit <
        32 + (Node.seqAll (Node.feedless :: text.toList.map Node.char)).weight then
          .error ⟨.tooLarge, anchored (".*" ++ text)⟩
      else .ok ⟨.seq (.look .textStart)
        (Node.seqAll (Node.feedless :: text.toList.map Node.char))⟩ := by
  have htext : (".*" ++ text).toList = '.' :: '*' :: text.toList := by
    rw [String.toList_append]
    rfl
  have hread := (readOn_run (dropLazy_of_plain h)).trans (readOn_literals [runPart] h)
  rw [← htext] at hread
  have hparts : forall part, part ∈ [runPart] ++ text.toList.map literalPart ->
      part.depth ≤ 1 := by
    intro part hpart
    rcases List.mem_cons.mp hpart with rfl | hpart
    · exact Nat.le_refl 1
    · rcases List.mem_map.mp hpart with ⟨c, _hc, rfl⟩
      exact Nat.zero_le 1
  have hcompile := compile_of_parts hread hparts
  rwa [List.map_append, List.map_map] at hcompile

/-!
## Matching
-/

theorem proper_chars (phrase : List Char) : (Node.seqAll (phrase.map Node.char)).Proper := by
  apply Node.proper_seqAll
  intro n hn
  rcases List.mem_map.mp hn with ⟨c, _hc, rfl⟩
  trivial

theorem exists_spans_plain_iff (phrase : List Char) (p : Position) :
    (exists q, (Node.seqAll (phrase.map Node.char)).Spans p q) <-> phrase <+: p.rest := by
  have hnothing : forall p, exists q, (Node.seqAll []).Spans p q := fun p => ⟨p, rfl⟩
  have hiff := Node.exists_spans_chars_iff phrase hnothing p
  rwa [List.append_nil] at hiff

theorem isMatch_textStart_iff {n : Node} (hproper : n.Proper) (line : String) :
    (Pattern.mk (.seq (.look .textStart) n)).isMatch line = true <->
      exists q, n.Spans ⟨none, line.toList⟩ q := by
  have hwhole : (Node.seq (.look .textStart) n).Proper := ⟨trivial, hproper⟩
  rw [isMatch, occursIn_iff hwhole, Node.occurs_textStart_iff]

theorem isMatch_plain_iff (phrase line : String) :
    (Pattern.mk (.seq (.look .textStart)
      (Node.seqAll (phrase.toList.map Node.char)))).isMatch line = true <->
        phrase.toList <+: line.toList := by
  rw [isMatch_textStart_iff (proper_chars _), exists_spans_plain_iff]

theorem isMatch_run_plain_iff (phrase : String) {line : String} (h : '\n' ∉ line.toList) :
    (Pattern.mk (.seq (.look .textStart)
      (Node.seqAll (Node.feedless :: phrase.toList.map Node.char)))).isMatch line = true <->
        phrase.toList <:+: line.toList := by
  have hproper : (Node.seqAll (Node.feedless :: phrase.toList.map Node.char)).Proper := by
    apply Node.proper_seqAll
    intro n hn
    rcases List.mem_cons.mp hn with rfl | hn
    · exact Node.proper_feedless
    · rcases List.mem_map.mp hn with ⟨c, _hc, rfl⟩
      trivial
  simp only [isMatch_textStart_iff hproper, Node.spans_seqAll_cons]
  change (exists q, (Node.seq Node.feedless _).Spans _ q) <-> _
  rw [Node.exists_spans_feedless_iff (exists_spans_plain_iff phrase.toList)]
  constructor
  · rintro ⟨pre, rest, heq, _hpre⟩
    exact ⟨pre, rest, by rw [List.append_assoc]; exact heq.symm⟩
  · rintro ⟨pre, rest, heq⟩
    rw [List.append_assoc] at heq
    refine ⟨pre, rest, heq.symm, ?_⟩
    intro hmem
    rw [← heq] at h
    exact h (List.mem_append_left _ hmem)

/-!
## Size
-/

theorem weight_seqAll_cons_le (first : Node) (others : List Node) :
    (Node.seqAll (first :: others)).weight ≤ first.weight + (Node.seqAll others).weight := by
  cases others with
  | nil => exact Nat.le_add_right _ _
  | cons second others => exact Nat.le_refl _

theorem weight_char (c : Char) :
    (Node.char c).weight = 32 * (String.utf8EncodeChar c).length := by
  rw [String.length_utf8EncodeChar]
  change 32 * (Char.ofNat c.toNat).utf8Size = _
  rw [Char.ofNat_toNat]

theorem weight_seqAll_chars_le (cs : List Char) :
    (Node.seqAll (cs.map Node.char)).weight ≤
      32 * ((cs.flatMap String.utf8EncodeChar).length + 1) := by
  induction cs with
  | nil => exact Nat.le_refl _
  | cons c cs ih =>
      have hcons := weight_seqAll_cons_le (Node.char c) (cs.map Node.char)
      rw [weight_char] at hcons
      rw [List.map_cons, List.flatMap_cons, List.length_append]
      omega

theorem compile_plain_ne_tooLarge {text : String} (h : IsPlain text.toList)
    (hlength : (Text.encode text).length ≤ 2 ^ 18) :
    compile text ≠ .error ⟨.tooLarge, anchored text⟩ ∧
      compile (".*" ++ text) ≠ .error ⟨.tooLarge, anchored (".*" ++ text)⟩ := by
  have hchars := weight_seqAll_chars_le text.toList
  have hrun := weight_seqAll_cons_le Node.feedless (text.toList.map Node.char)
  have hfeedless : Node.feedless.weight = 64 := rfl
  have hlimit : weightLimit = 10485760 := rfl
  rw [← Text.encode] at hchars
  rw [compile_plain h, compile_run_plain h, if_neg (by omega), if_neg (by omega)]
  simp only [ne_eq, reduceCtorEq, not_false_eq_true, and_self]

end Pattern

/-!
## Lines of logs
-/

namespace Log

open Text

theorem not_mem_shown {segment : Bytes} (h : 10 ∉ segment) (ended : Bool) :
    '\n' ∉ (shown (segment, ended)).toList := by
  have hreturn : 10 ∉ dropReturn segment := by
    unfold dropReturn
    split
    · exact fun hmem => h (List.dropLast_subset segment hmem)
    · exact h
  rw [shown, toList_decodeLenient]
  cases ended with
  | false => exact not_mem_chars (by decide) h
  | true => exact not_mem_chars (by decide) hreturn

theorem not_mem_of_mem_linesOfBytes {bytes : Bytes} {line : String}
    (h : line ∈ linesOfBytes bytes) : '\n' ∉ line.toList := by
  rw [linesOfBytes_eq] at h
  rcases List.mem_map.mp h with ⟨segment, hsegment, rfl⟩
  exact not_mem_shown (not_mem_of_mem_withEnds (List.mem_filter.mp hsegment).1) segment.2

theorem not_mem_of_readLines {files : Workspace} {path : String} {lines : List String}
    (h : readLines files path = .ok lines) {line : String} (hline : line ∈ lines) :
    '\n' ∉ line.toList := by
  rcases exists_of_bind_eq_ok h with ⟨bytes, _hread, hsame⟩
  rw [← Except.ok.inj hsame] at hline
  exact not_mem_of_mem_linesOfBytes hline

/--
A text that, as a pattern, is about the lines of a kind. It matches these lines, a search for it in
a log says whether there is one of them, and that is whether it would suppress a line of the log.
-/
structure Finds (text : String) (kind : String -> Prop) : Prop where
  pattern : exists p, Pattern.compile text = .ok p ∧
    forall line : String, '\n' ∉ line.toList -> (p.isMatch line = true <-> kind line)
  search (files : Workspace) (path : String) (lines : List String) :
    readLines files path = .ok lines ->
      exists found, containsLine files path text = .ok found ∧
        (found = true <-> exists line, line ∈ lines ∧ kind line)
  suppression (files : Workspace) (path : String) (lines : List String) (p : Pattern) :
    readLines files path = .ok lines -> Pattern.compile text = .ok p ->
      (containsLine files path text = .ok true <->
        exists line, line ∈ lines ∧ isIgnored (some p) line = true)

theorem containsLine_eq {files : Workspace} {path text : String} {lines : List String} {p : Pattern}
    (hlines : readLines files path = .ok lines) (hp : Pattern.compile text = .ok p) :
    containsLine files path text = .ok (lines.any p.isMatch) := by
  rw [containsLine, hp, hlines]
  rfl

theorem finds_of_compile {text : String} {kind : String -> Prop} {p : Pattern}
    (hp : Pattern.compile text = .ok p)
    (hmatch : forall line : String, '\n' ∉ line.toList -> (p.isMatch line = true <-> kind line)) :
    Finds text kind where
  pattern := ⟨p, hp, hmatch⟩
  search files path lines hlines := by
    refine ⟨_, containsLine_eq hlines hp, ?_⟩
    rw [List.any_eq_true]
    apply exists_congr
    intro line
    apply and_congr_right
    intro hline
    exact hmatch line (not_mem_of_readLines hlines hline)
  suppression files path lines q hlines hq := by
    rw [containsLine_eq hlines hq, Except.ok.injEq, List.any_eq_true]
    rfl

/--
A text without signs that mean something in a pattern finds the lines that begin with it, and behind
a run of any characters it finds the lines that hold it. Only a text of more than a quarter of a
million bytes can be too large for that.
-/
theorem plain_text_finds_beginnings_and_parts {text : String}
    (h : Pattern.IsPlain text.toList) :
    (Pattern.compile text ≠ .error ⟨.tooLarge, Pattern.anchored text⟩ ->
      Finds text fun line => text.toList <+: line.toList) ∧
    (Pattern.compile (".*" ++ text) ≠ .error ⟨.tooLarge, Pattern.anchored (".*" ++ text)⟩ ->
      Finds (".*" ++ text) fun line => text.toList <:+: line.toList) ∧
    ((encode text).length ≤ 2 ^ 18 ->
      Pattern.compile text ≠ .error ⟨.tooLarge, Pattern.anchored text⟩ ∧
      Pattern.compile (".*" ++ text) ≠ .error ⟨.tooLarge, Pattern.anchored (".*" ++ text)⟩) := by
  refine ⟨?_, ?_, Pattern.compile_plain_ne_tooLarge h⟩
  · intro hsize
    have hcompile := Pattern.compile_plain h
    split at hcompile
    · exact absurd hcompile hsize
    · exact finds_of_compile hcompile fun line _hline => Pattern.isMatch_plain_iff text line
  · intro hsize
    have hcompile := Pattern.compile_run_plain h
    split at hcompile
    · exact absurd hcompile hsize
    · exact finds_of_compile hcompile fun line hline => Pattern.isMatch_run_plain_iff text hline

theorem plain_text_finds_lines_with_it :
    Pattern.IsPlain "# ü-€".toList ∧
    (Finds "# ü-€" fun line => "# ü-€".toList <+: line.toList) ∧
    (Finds ".*# ü-€" fun line => "# ü-€".toList <:+: line.toList) := by
  have hplain : Pattern.IsPlain "# ü-€".toList := by decide
  rcases plain_text_finds_beginnings_and_parts hplain with ⟨hbeginnings, hparts, hsize⟩
  rcases hsize (by decide) with ⟨hsmall, hsmall'⟩
  exact ⟨hplain, hbeginnings hsmall, hparts hsmall'⟩

end Log
end AnalysisHarness
