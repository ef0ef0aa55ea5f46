import AnalysisHarness.Proofs.Json.Scalar
import AnalysisHarness.Proofs.Json.Soundness
import AnalysisHarness.Proofs.Task.Polling
import Mathlib

/-!
# What a task document says

An answer that is written by the grammar of JSON says what its members "task" and "status" say,
and nothing else in it matters: neither the other members and their values, nor the order of the
members, nor the spaces, nor how the characters are escaped. Only the keys of the two objects have
to be texts. An escaped half of a surrogate pair in one of them spoils the whole answer.
-/

namespace AnalysisHarness
namespace Task

open Json

/-!
## Members by their keys
-/

def valuesAt (key : String) (members : List (List StringUnit × Form)) : List Form :=
  (members.filter fun member => resolveString member.1 == some key).map Prod.snd

def TextKeys (members : List (List StringUnit × Form)) : Prop :=
  forall member, member ∈ members -> (resolveString member.1).isSome = true

instance (members : List (List StringUnit × Form)) : Decidable (TextKeys members) :=
  inferInstanceAs (Decidable (forall member, member ∈ members -> _))

theorem valuesOf?_cons {member : List StringUnit × Form} {name : String}
    (h : resolveString member.1 = some name) (key : String)
    (members : List (List StringUnit × Form)) :
    valuesOf? key (member :: members) =
      (valuesOf? key members).map fun values =>
        if name = key then member.2 :: values else values := by
  unfold valuesOf?
  rw [List.mapM_cons, h]
  cases members.mapM (fun m => (resolveString m.1).map fun k => (k, m.2)) with
  | none => rfl
  | some keyed =>
      simp only [Option.map_some, Option.bind_eq_bind, Option.bind_some, Option.pure_def,
        List.filter_cons, beq_iff_eq]
      split <;> rfl

theorem valuesOf?_of_textKeys (key : String) {members : List (List StringUnit × Form)}
    (h : TextKeys members) : valuesOf? key members = some (valuesAt key members) := by
  induction members with
  | nil => rfl
  | cons member members ih =>
      rcases List.forall_mem_cons.mp h with ⟨hfirst, hmore⟩
      rcases Option.isSome_iff_exists.mp hfirst with ⟨name, hname⟩
      rw [valuesOf?_cons hname, ih hmore, Option.map_some, valuesAt, valuesAt, List.filter_cons,
        hname]
      simp only [beq_iff_eq, Option.some.injEq]
      split <;> rfl

theorem valuesOf?_of_not_textKeys (key : String) {members : List (List StringUnit × Form)}
    (h : ¬TextKeys members) : valuesOf? key members = none := by
  induction members with
  | nil =>
      apply absurd _ h
      intro member hmember
      cases hmember
  | cons member members ih =>
      cases hname : resolveString member.1 with
      | none =>
          unfold valuesOf?
          rw [List.mapM_cons, hname]
          rfl
      | some name =>
          have hmore : ¬TextKeys members := by
            intro hmore
            exact h (List.forall_mem_cons.mpr ⟨Option.isSome_iff_exists.mpr ⟨name, hname⟩, hmore⟩)
          rw [valuesOf?_cons hname, ih hmore]
          rfl

theorem onlyMember?_of_values {key : String} {members : List (List StringUnit × Form)}
    {value : Form} (hkeys : TextKeys members) (h : valuesAt key members = [value]) :
    onlyMember? key (.object members) = some value := by
  rw [onlyMember?, valuesOf?_of_textKeys key hkeys, h]

theorem of_onlyMember? {key : String} {members : List (List StringUnit × Form)} {value : Form}
    (h : onlyMember? key (.object members) = some value) :
    TextKeys members ∧ valuesAt key members = [value] := by
  by_cases hkeys : TextKeys members
  · rw [onlyMember?, valuesOf?_of_textKeys key hkeys] at h
    split at h
    · rename_i hvalues
      cases h
      exact ⟨hkeys, Option.some.inj hvalues⟩
    · cases h
  · rw [onlyMember?, valuesOf?_of_not_textKeys key hkeys] at h
    cases h

/-!
## Documents with a status and without one
-/

inductive HasStatus (word : String) : Form -> Prop
  | mk {members : List (List StringUnit × Form)} {units : List StringUnit}
      (hkeys : TextKeys members) (hstatus : valuesAt "status" members = [.string units])
      (hword : resolveString units = some word) : HasStatus word (.object members)

inductive HasTask (word : String) : Form -> Prop
  | mk {members : List (List StringUnit × Form)} {task : Form} (hkeys : TextKeys members)
      (htask : valuesAt "task" members = [task]) (hstatus : HasStatus word task) :
      HasTask word (.object members)

/-- Objects that give no status. -/
inductive LacksStatus : Form -> Prop
  | badKey {members : List (List StringUnit × Form)} (h : ¬TextKeys members) :
      LacksStatus (.object members)
  | missing {members : List (List StringUnit × Form)} (h : valuesAt "status" members = []) :
      LacksStatus (.object members)
  | repeated {members : List (List StringUnit × Form)}
      (h : 1 < (valuesAt "status" members).length) : LacksStatus (.object members)
  | noText {members : List (List StringUnit × Form)} {value : Form}
      (h : value ∈ valuesAt "status" members)
      (hvalue : forall units word, value = .string units -> resolveString units ≠ some word) :
      LacksStatus (.object members)

/-- Objects that give no task, or a task that gives no status. -/
inductive LacksTask : Form -> Prop
  | badKey {members : List (List StringUnit × Form)} (h : ¬TextKeys members) :
      LacksTask (.object members)
  | missing {members : List (List StringUnit × Form)} (h : valuesAt "task" members = []) :
      LacksTask (.object members)
  | repeated {members : List (List StringUnit × Form)}
      (h : 1 < (valuesAt "task" members).length) : LacksTask (.object members)
  | null {members : List (List StringUnit × Form)} (h : Form.null ∈ valuesAt "task" members) :
      LacksTask (.object members)
  | noStatus {members : List (List StringUnit × Form)} {task : Form}
      (h : task ∈ valuesAt "task" members) (htask : LacksStatus task) :
      LacksTask (.object members)

theorem statusOfForm?_of_hasTask {document : Form} {word : String} (h : HasTask word document) :
    statusOfForm? document = some (Status.ofWord word) := by
  rcases h with ⟨hkeys, htask, hstatus⟩
  rcases hstatus with ⟨htaskKeys, hstatus, hword⟩
  simp only [statusOfForm?, onlyMember?_of_values hkeys htask,
    onlyMember?_of_values htaskKeys hstatus, Option.bind_eq_bind, Option.bind_some, hword,
    Option.map_some]

theorem eq_of_mem_of_values {key : String} {members : List (List StringUnit × Form)}
    {value value' : Form} (h : valuesAt key members = [value])
    (hmem : value' ∈ valuesAt key members) : value' = value := by
  rw [h] at hmem
  exact List.mem_singleton.mp hmem

theorem not_text_of_lacksStatus {task value : Form} (h : LacksStatus task)
    (hvalue : onlyMember? "status" task = some value) (units : List StringUnit) (word : String)
    (hunits : value = .string units) : resolveString units ≠ some word := by
  cases h with
  | badKey h => exact absurd (of_onlyMember? hvalue).1 h
  | missing h =>
      rw [(of_onlyMember? hvalue).2] at h
      cases h
  | repeated h =>
      rw [(of_onlyMember? hvalue).2] at h
      exact absurd h (Nat.lt_irrefl 1)
  | noText h hnot =>
      rw [← eq_of_mem_of_values (of_onlyMember? hvalue).2 h] at hunits
      exact hnot units word hunits

theorem statusOfForm?_of_lacksTask {document : Form} (h : LacksTask document) :
    statusOfForm? document = none := by
  apply Option.eq_none_iff_forall_ne_some.mpr
  intro status hstatus
  simp only [statusOfForm?, Option.bind_eq_bind, Option.bind_eq_some_iff] at hstatus
  rcases hstatus with ⟨task, htask, value, hvalue, hstatus⟩
  cases h with
  | badKey h => exact h (of_onlyMember? htask).1
  | missing h =>
      rw [(of_onlyMember? htask).2] at h
      cases h
  | repeated h =>
      rw [(of_onlyMember? htask).2] at h
      exact absurd h (Nat.lt_irrefl 1)
  | null h =>
      rw [← eq_of_mem_of_values (of_onlyMember? htask).2 h] at hvalue
      cases hvalue
  | noStatus h hlacks =>
      rw [← eq_of_mem_of_values (of_onlyMember? htask).2 h] at hvalue
      cases value with
      | string units =>
          rcases Option.map_eq_some_iff.mp hstatus with ⟨word, hword, _heq⟩
          exact not_text_of_lacksStatus hlacks hvalue units word rfl hword
      | _ => cases hstatus

/-!
## What a round makes of a document
-/

/-- A round ends the waiting, however many more there could be. -/
def RoundEnds (around : Surroundings) (settings : PollSettings) (url log body : String)
    (started polls : Nat) (s : Session) : Prop :=
  exists outcome, forall fuel,
    pollLoop around settings url log started (fuel + 1) polls s =
      (.ok (some outcome, polls + 1), answered settings url body polls s)

/-- A round leaves the task undecided, and the waiting goes on after it. -/
def RoundPasses (around : Surroundings) (settings : PollSettings) (url log body : String)
    (started polls : Nat) (s : Session) : Prop :=
  forall fuel,
    pollLoop around settings url log started (fuel + 1) polls s =
      pollLoop around settings url log started fuel (polls + 1)
        (answered settings url body polls s)

section Round

variable {around : Surroundings} {settings : PollSettings} {url log body : String}
variable {started polls : Nat} {s : Session}

theorem roundEnds_of_decides {outcome : Outcome}
    (hlimit : limitReached around settings started polls s = false)
    (hanswer : around.answer s.requests.length url = .ok body)
    (h : Decides log (.ok body) (.ok outcome)) :
    RoundEnds around settings url log body started polls s := by
  refine ⟨outcome, ?_⟩
  intro fuel
  rw [pollLoop_succ]
  simp [hlimit, hanswer, outcome?_of_decides h]

theorem roundPasses_of_undecided
    (hlimit : limitReached around settings started polls s = false)
    (hanswer : around.answer s.requests.length url = .ok body) (h : Undecided (.ok body)) :
    RoundPasses around settings url log body started polls s := by
  intro fuel
  rw [pollLoop_succ]
  simp [hlimit, hanswer, outcome?_of_undecided log h]

theorem not_roundEnds_of_roundPasses
    (h : RoundPasses around settings url log body started polls s) :
    ¬RoundEnds around settings url log body started polls s := by
  rintro ⟨outcome, hends⟩
  have hlast := hends 0
  rw [h 0, pollLoop] at hlast
  cases hlast

theorem round_of_status {document : Form} {word : String}
    (hread : Form.read body.toList = .ok document)
    (hstatus : statusOfForm? document = some (Status.ofWord word))
    (hlimit : limitReached around settings started polls s = false)
    (hanswer : around.answer s.requests.length url = .ok body) :
    (RoundEnds around settings url log body started polls s <->
      word = "SUCCESS" ∨ word = "FAILED") ∧
    (RoundPasses around settings url log body started polls s <->
      ¬(word = "SUCCESS" ∨ word = "FAILED")) := by
  by_cases hfinal : word = "SUCCESS" ∨ word = "FAILED"
  · have hends : RoundEnds around settings url log body started polls s := by
      rcases hfinal with rfl | rfl
      · exact roundEnds_of_decides hlimit hanswer (.success hread hstatus)
      · exact roundEnds_of_decides hlimit hanswer (.failed hread hstatus)
    refine ⟨iff_of_true hends hfinal, iff_of_false ?_ (not_not_intro hfinal)⟩
    intro hpasses
    exact not_roundEnds_of_roundPasses hpasses hends
  · rcases not_or.mp hfinal with ⟨hsuccess, hfailed⟩
    have hpasses : RoundPasses around settings url log body started polls s :=
      roundPasses_of_undecided hlimit hanswer (.notFinal hread hstatus hsuccess hfailed)
    exact ⟨iff_of_false (not_roundEnds_of_roundPasses hpasses) hfinal, iff_of_true hpasses hfinal⟩

end Round

/--
An answer that is written by the grammar says what its status says, whatever else it holds and
however it is written, and the waiting ends with it exactly if the status is final. Where there is
no status, or a key that is no text, it says nothing, and the waiting goes on.
-/
theorem ofBody_settled_by_status {document : Form} {body : String}
    (hbody : Written document body.toList) :
    (forall word, HasTask word document ->
      Reading.ofBody body = .status (Status.ofWord word) ∧
      (Status.ofWord word).word = word ∧
      forall (around : Surroundings) (settings : PollSettings) (url log : String)
        (started polls : Nat) (s : Session),
        limitReached around settings started polls s = false ->
        around.answer s.requests.length url = .ok body ->
        (RoundEnds around settings url log body started polls s <->
          word = "SUCCESS" ∨ word = "FAILED") ∧
        (RoundPasses around settings url log body started polls s <->
          ¬(word = "SUCCESS" ∨ word = "FAILED"))) ∧
    (LacksTask document ->
      Reading.ofBody body = .unusable ∧
      forall (around : Surroundings) (settings : PollSettings) (url log : String)
        (started polls : Nat) (s : Session),
        limitReached around settings started polls s = false ->
        around.answer s.requests.length url = .ok body ->
        RoundPasses around settings url log body started polls s) := by
  have hread : Form.read body.toList = .ok document := Form.read_written hbody
  constructor
  · intro word htask
    have hstatus := statusOfForm?_of_hasTask htask
    refine ⟨?_, Status.word_ofWord word, ?_⟩
    · rw [ofBody_of_read hread, hstatus]
    · intro around settings url log started polls s hlimit hanswer
      exact round_of_status hread hstatus hlimit hanswer
  · intro hlacks
    have hstatus := statusOfForm?_of_lacksTask hlacks
    constructor
    · rw [ofBody_of_read hread, hstatus]
    · intro around settings url log started polls s hlimit hanswer
      exact roundPasses_of_undecided hlimit hanswer (.noStatus hread hstatus)

def finishedMembers : List (List StringUnit × Form) :=
  [([.char 't', .unit 0x61, .char 's', .char 'k'],
    .object
      [(printedUnits "other", .array
        [.object [(printedUnits "status", .string (printedUnits "FAILED"))],
          .number ⟨false, ['1'], ['5'], some (true, ['3'])⟩]),
      (printedUnits "status", .string (.unit 0x53 :: printedUnits "UCCESS"))]),
    ([.unit 0xD834, .unit 0xDD1E], .string [.unit 0xD800])]

def finishedBody : String :=
  "\n\x7b \"t\\u0061sk\" :\x7b\"other\":[\x7b\"status\":\"FAILED\"\x7d, 1.5E-3 ]," ++
    "\"status\":\"\\u0053UCCESS\"\x7d ,\t\"\\ud834\\uDD1E\":\"\\ud800\"\x7d "

def twofoldMembers : List (List StringUnit × Form) :=
  [(printedUnits "task", .object
    [(printedUnits "status", .string (printedUnits "SUCCESS")),
      (printedUnits "status", .null)])]

def twofoldBody : String := "\x7b\"task\":\x7b\"status\":\"SUCCESS\",\"status\":null\x7d\x7d"

theorem ofBody_of_two_documents :
    Reading.ofBody finishedBody = .status .success ∧
    RoundEnds (.scripted [.ok finishedBody]) ⟨250, none, none⟩ "http://s/task?id=T1" "a.log"
      finishedBody 0 0 (.start .empty) ∧
    Reading.ofBody twofoldBody = .unusable ∧
    RoundPasses (.scripted [.ok twofoldBody]) ⟨250, none, none⟩ "http://s/task?id=T1" "a.log"
      twofoldBody 0 0 (.start .empty) := by
  have hfinished : Written (.object finishedMembers) finishedBody.toList := by
    apply Form.read_eq_ok_iff.mp
    cbv
  have htwofold : Written (.object twofoldMembers) twofoldBody.toList := by
    apply Form.read_eq_ok_iff.mp
    cbv
  have htask : HasTask "SUCCESS" (.object finishedMembers) :=
    .mk (by decide) rfl (.mk (by decide) rfl rfl)
  have hlacks : LacksTask (.object twofoldMembers) :=
    .noStatus (List.mem_singleton_self _) (.repeated (by decide))
  rcases (ofBody_settled_by_status hfinished).1 "SUCCESS" htask with ⟨hstatus, _hword, hround⟩
  rcases (ofBody_settled_by_status htwofold).2 hlacks with ⟨hunusable, hpasses⟩
  exact ⟨hstatus, (hround _ _ _ _ _ _ _ rfl rfl).1.mpr (Or.inl rfl), hunusable,
    hpasses _ _ _ _ _ _ _ rfl rfl⟩

def halfKeyMembers : List (List StringUnit × Form) :=
  [([.unit 0xD800], .number ⟨false, ['0'], [], none⟩),
    (printedUnits "task", .object [(printedUnits "status", .string (printedUnits "SUCCESS"))])]

def halfKeyBody : String :=
  "\x7b\"\\ud800\":0,\"task\":\x7b\"status\":\"SUCCESS\"\x7d\x7d"

/-- A key that is no text spoils an answer, although it is neither "task" nor "status". -/
theorem ofBody_of_half_key :
    Written (.object halfKeyMembers) halfKeyBody.toList ∧
    (exists task units,
      valuesAt "task" halfKeyMembers = [.object task] ∧
      valuesAt "status" task = [.string units] ∧
      resolveString units = some "SUCCESS") ∧
    Reading.ofBody halfKeyBody = .unusable := by
  have hread : Form.read halfKeyBody.toList = .ok (.object halfKeyMembers) := by cbv
  refine ⟨Form.read_eq_ok_iff.mp hread, ⟨_, _, rfl, rfl, rfl⟩, ?_⟩
  rw [ofBody_of_read hread]
  rfl

end Task
end AnalysisHarness
