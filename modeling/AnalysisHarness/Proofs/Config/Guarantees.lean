import AnalysisHarness.Proofs.Config.Address
import AnalysisHarness.Proofs.Config.Precedence
import AnalysisHarness.Proofs.Config.Shadowing
import AnalysisHarness.Proofs.Task.LastRound

/-!
# What settings that were loaded guarantee

Loading refuses limits of zero and numbers that are out of range, in whichever layer they stand and
whatever shape the sections have. So waiting under the settings that were loaded asks the server at
least once, and no more often than they allow.
-/

namespace AnalysisHarness
namespace Config

open Text Toml

/-!
## Numbers
-/

/-- A field that holds a number below a bound. -/
structure NumericField where
  group : String
  place : Nat
  key : String
  bound : Nat
  default : Option Nat
  value : Config -> Option Nat

def numericFields : List NumericField :=
  [⟨"server", 3, "request_timeout_secs", 2 ^ 64, some defaultServer.requestTimeoutSecs,
      fun c => some c.server.requestTimeoutSecs⟩,
    ⟨"poll", 0, "interval_ms", 2 ^ 64, some defaultPoll.intervalMs,
      fun c => some c.poll.intervalMs⟩,
    ⟨"poll", 1, "max_polls", 2 ^ 32, none, fun c => c.poll.maxPolls⟩,
    ⟨"poll", 2, "timeout_secs", 2 ^ 64, none, fun c => c.poll.timeoutSecs⟩]

def NumericField.winner? (field : NumericField) (documents : List Value) : Option Value :=
  Config.winner? field.group field.place field.key documents

/-- A value that stands for a number below a bound. -/
inductive IsBelow (bound : Nat) : Value -> Option Nat -> Prop
  | integer {n : Nat} (h : n < bound) : IsBelow bound (.integer n) (some n)

theorem plain_isBelow (bound : Nat) : Plain (IsBelow bound) := by
  intro v n h
  cases h
  rfl

theorem isBelow_of_asNatural {bound : Nat} (v : Value) (n : Nat)
    (h : asNatural bound v = .ok n) : IsBelow bound v (some n) := by
  rcases eq_integer_of_asNatural h with ⟨rfl, hbound⟩
  exact .integer hbound

section Reading

variable {fields : Fields} {place bound : Nat} {key : String} {v : Value}

theorem isBelow_of_withDefault {default n : Nat}
    (h : fields.withDefault place key (asNatural bound) default = .ok n) :
    Settled (IsBelow bound) (some default) (fields.find? place key) (some n) := by
  have hsettled : Settled (fun v n => IsBelow bound v (some n)) default
      (fields.find? place key) n := settled_of_withDefault isBelow_of_asNatural h
  generalize fields.find? place key = found at hsettled
  cases hsettled with
  | unset => exact .unset
  | set hbelow => exact .set hbelow

theorem fieldAt?_of_sectionFields {count : Nat} (h : sectionFields count v = .ok fields)
    (place : Nat) (key : String) : fieldAt? place key v = fields.find? place key := by
  rcases exists_of_bind_eq_ok h with ⟨given, hgiven, h⟩
  split at h
  · cases h
  · cases h
    rw [fieldAt?, hgiven]

theorem numbers_of_readServer {server : ServerSettings} (h : readServer v = .ok server) :
    Settled (IsBelow (2 ^ 64)) (some defaultServer.requestTimeoutSecs)
      (fieldAt? 3 "request_timeout_secs" v) (some server.requestTimeoutSecs) := by
  rcases exists_of_bind_eq_ok h with ⟨fields, hfields, h⟩
  rcases exists_of_bind_eq_ok h with ⟨url, _hurl, h⟩
  rcases exists_of_bind_eq_ok h with ⟨user, _huser, h⟩
  rcases exists_of_bind_eq_ok h with ⟨password, _hpassword, h⟩
  rcases exists_of_bind_eq_ok h with ⟨timeout, htimeout, h⟩
  cases h
  rw [fieldAt?_of_sectionFields hfields]
  exact isBelow_of_withDefault htimeout

theorem numbers_of_readPoll {poll : WaitSettings} (h : readPoll v = .ok poll) :
    Settled (IsBelow (2 ^ 64)) (some defaultPoll.intervalMs) (fieldAt? 0 "interval_ms" v)
      (some poll.intervalMs) ∧
    Settled (IsBelow (2 ^ 32)) none (fieldAt? 1 "max_polls" v) poll.maxPolls ∧
    Settled (IsBelow (2 ^ 64)) none (fieldAt? 2 "timeout_secs" v) poll.timeoutSecs := by
  rcases exists_of_bind_eq_ok h with ⟨fields, hfields, h⟩
  rcases exists_of_bind_eq_ok h with ⟨interval, hinterval, h⟩
  rcases exists_of_bind_eq_ok h with ⟨maxPolls, hmaxPolls, h⟩
  rcases exists_of_bind_eq_ok h with ⟨timeout, htimeout, h⟩
  cases h
  rw [fieldAt?_of_sectionFields hfields, fieldAt?_of_sectionFields hfields,
    fieldAt?_of_sectionFields hfields]
  exact ⟨isBelow_of_withDefault hinterval, settled_of_optional isBelow_of_asNatural hmaxPolls,
    settled_of_optional isBelow_of_asNatural htimeout⟩

theorem settled_of_readSection {α : Type} {name : String} {document : Value}
    {read : Value -> Except Misfit α} {default x : α} (number : α -> Option Nat)
    (hread : forall v x, read v = .ok x ->
      Settled (IsBelow bound) (number default) (fieldAt? place key v) (number x))
    (h : readSection document name read default = .ok x) :
    Settled (IsBelow bound) (number default) (found? name place key document) (number x) := by
  rw [readSection] at h
  rw [found?]
  cases hentry : document.entry? name with
  | none =>
      -- a missing section has the defaults of its fields
      rw [hentry] at h
      cases h
      exact .unset
  | some v =>
      rw [hentry] at h
      exact hread v x h

theorem number_of_ofValue {document : Value} {c : Config} (h : ofValue document = .ok c)
    {field : NumericField} (hfield : field ∈ numericFields) :
    Settled (IsBelow field.bound) field.default
      (found? field.group field.place field.key document) (field.value c) := by
  rcases exists_of_bind_eq_ok (mapError_eq_ok_iff.mp h) with ⟨server, hserver, h⟩
  rcases exists_of_bind_eq_ok h with ⟨poll, hpoll, h⟩
  rcases exists_of_bind_eq_ok h with ⟨testdata, _hpaths, h⟩
  cases h
  simp only [numericFields, List.mem_cons, List.not_mem_nil, or_false] at hfield
  rcases hfield with rfl | rfl | rfl | rfl
  · exact settled_of_readSection (fun server => some server.requestTimeoutSecs)
      (fun v x hx => numbers_of_readServer hx) hserver
  · exact settled_of_readSection (fun poll => some poll.intervalMs)
      (fun v x hx => (numbers_of_readPoll hx).1) hpoll
  · exact settled_of_readSection WaitSettings.maxPolls
      (fun v x hx => (numbers_of_readPoll hx).2.1) hpoll
  · exact settled_of_readSection WaitSettings.timeoutSecs
      (fun v x hx => (numbers_of_readPoll hx).2.2) hpoll

end Reading

/-!
## What is accepted
-/

structure Accepted (c : Config) : Prop where
  requestTimeoutSecs : c.server.requestTimeoutSecs ≠ 0
  intervalMs : c.poll.intervalMs ≠ 0
  maxPolls : c.poll.maxPolls ≠ some 0
  timeoutSecs : c.poll.timeoutSecs ≠ some 0
  testdata : isBlankText c.testdata = false

theorem not_of_ite_eq_none {α : Type} {p : Prop} [Decidable p] {x : α} {rest : Option α}
    (h : (if p then some x else rest) = none) : Not p ∧ rest = none := by
  split at h
  · cases h
  · rename_i hp
    exact ⟨hp, h⟩

theorem accepted_of_validate {c : Config} (h : c.validate = .ok ()) : Accepted c := by
  unfold validate at h
  split at h
  · rename_i hnone
    rcases not_of_ite_eq_none hnone with ⟨_haddress, hnone⟩
    rcases not_of_ite_eq_none hnone with ⟨_hscheme, hnone⟩
    rcases not_of_ite_eq_none hnone with ⟨hrequest, hnone⟩
    rcases not_of_ite_eq_none hnone with ⟨hinterval, hnone⟩
    rcases not_of_ite_eq_none hnone with ⟨hpolls, hnone⟩
    rcases not_of_ite_eq_none hnone with ⟨htimeout, hnone⟩
    rcases not_of_ite_eq_none hnone with ⟨htestdata, _hnone⟩
    exact ⟨hrequest, hinterval, hpolls, htimeout, Bool.eq_false_iff.mpr htestdata⟩
  · cases h

/-!
## Loading
-/

section Loading

variable {files : Workspace} {environment : String -> Option String} {root : String} {c : Config}

theorem exists_of_load [Wording] (h : load files environment root = .ok c) :
    exists configured,
      ofValue ((documents files (layerPaths root (environment "HOME"))).foldl overlay
        (.table [])) = .ok configured ∧
      c = configured.withUrl (environment urlVariable) ∧ c.validate = .ok () := by
  rcases exists_of_bind_eq_ok h with ⟨configured, hconfigured, h⟩
  rcases exists_of_bind_eq_ok h with ⟨_, hvalid, h⟩
  cases h
  rcases exists_of_bind_eq_ok hconfigured with ⟨merged, hmerged, hconfigured⟩
  rw [foldlM_addLayer hmerged] at hconfigured
  split at hconfigured
  · rename_i hread
    cases hconfigured
    exact ⟨_, hread, rfl, hvalid⟩
  · cases hconfigured

theorem value_withUrl (c : Config) (value : Option String) {field : NumericField}
    (hfield : field ∈ numericFields) : field.value (c.withUrl value) = field.value c := by
  have hserver : (c.withUrl value).server.requestTimeoutSecs = c.server.requestTimeoutSecs := by
    unfold withUrl
    repeat' split
    all_goals rfl
  have hpoll : (c.withUrl value).poll = c.poll := by
    unfold withUrl
    repeat' split
    all_goals rfl
  simp only [numericFields, List.mem_cons, List.not_mem_nil, or_false] at hfield
  rcases hfield with rfl | rfl | rfl | rfl
  · exact congrArg some hserver
  · exact congrArg (fun poll => some poll.intervalMs) hpoll
  · exact congrArg WaitSettings.maxPolls hpoll
  · exact congrArg WaitSettings.timeoutSecs hpoll

/-- Every number is the integer of the winner, or the default where there is none. -/
theorem number_of_load [Wording] (h : load files environment root = .ok c) {field : NumericField}
    (hfield : field ∈ numericFields) :
    Settled (IsBelow field.bound) field.default
      (field.winner? (documents files (layerPaths root (environment "HOME")))) (field.value c) := by
  rcases exists_of_load h with ⟨configured, hread, rfl, _hvalid⟩
  have hnumber := number_of_ofValue hread hfield
  have hwinner := found?_foldl_overlay
    (fun document hmem => exists_sorted_table_of_mem_documents hmem) fun v hv => by
      rw [hv] at hnumber
      cases hnumber with
      | set hbelow => exact plain_isBelow field.bound v _ hbelow
  rw [value_withUrl configured (environment urlVariable) hfield, NumericField.winner?, ← hwinner]
  exact hnumber

theorem exists_error_of_out_of_range [Wording] {field : NumericField} {i : Int}
    (hfield : field ∈ numericFields)
    (hwinner : field.winner? (documents files (layerPaths root (environment "HOME"))) =
      some (.integer i))
    (hrange : i < 0 ∨ (field.bound : Int) ≤ i) :
    exists e, load files environment root = .error e := by
  cases hload : load files environment root with
  | error e => exact ⟨e, rfl⟩
  | ok c =>
      have hnumber := number_of_load hload hfield
      rw [hwinner] at hnumber
      generalize field.value c = value at hnumber
      cases hnumber with
      | set hbelow =>
          cases hbelow with
          | integer hbound => omega

end Loading

/--
Settings that were loaded hold no limit of zero and no blank directory. Each number is exactly the
integer that stands in the highest layer that sets it and is not hidden, and an integer below zero
or too large for its field is refused. So waiting under the settings sends at least one request for
the status and no more than they allow. It never ends at a limit without a request, unless a request
itself fails with just that.
-/
theorem load_guarantees_waiting [Wording] (files : Workspace)
    (environment : String -> Option String) (root : String) :
    (forall c, load files environment root = .ok c ->
      Accepted c ∧
      (forall field, field ∈ numericFields ->
        Settled (IsBelow field.bound) field.default
          (field.winner? (documents files (layerPaths root (environment "HOME"))))
          (field.value c)) ∧
      (forall around url log s,
        0 < Task.statusRequests around c.pollSettings url log s ∧
        (forall m, c.poll.maxPolls = some m ->
          Task.statusRequests around c.pollSettings url log s ≤ m) ∧
        ((forall k, Task.statusAnswer around url s k ≠ .error (.pollTimeout 0)) ->
          (Task.poll around c.pollSettings url log s).1 ≠ .error (.pollTimeout 0)))) ∧
    (forall field i,
      field ∈ numericFields ->
      field.winner? (documents files (layerPaths root (environment "HOME"))) =
        some (.integer i) ->
      i < 0 ∨ (field.bound : Int) ≤ i ->
      exists e, load files environment root = .error e) := by
  constructor
  · intro c hload
    rcases exists_of_load hload with ⟨_configured, _hread, _hurl, hvalid⟩
    have haccepted := accepted_of_validate hvalid
    have hpolls : c.pollSettings.maxPolls ≠ some 0 := haccepted.maxPolls
    refine ⟨haccepted, fun field hfield => number_of_load hload hfield, ?_⟩
    intro around url log s
    refine ⟨?_, ?_, Task.poll_ne_pollTimeout_zero hpolls⟩
    · apply Nat.pos_of_ne_zero
      intro hnone
      exact hpolls (Task.statusRequests_eq_zero_iff.mp hnone)
    · intro m hm
      exact Task.statusRequests_le hm
  · intro field i hfield hwinner hrange
    exact exists_error_of_out_of_range hfield hwinner hrange

def integer? : Value -> Option Int
  | .integer i => some i
  | _ => none

theorem eq_integer_of_integer? {found : Option Value} {i : Int}
    (h : found.bind integer? = some i) : found = some (.integer i) := by
  rcases Option.bind_eq_some_iff.mp h with ⟨v, rfl, hv⟩
  cases v with
  | integer n =>
      cases hv
      rfl
  | _ => cases hv

attribute [local instance] Wording.sample

theorem load_of_repository_guarantees_waiting :
    (exists c,
      load (repositoryAlone "poll = [7, 4, 60]\n") (fun _ => none) "." = .ok c ∧
      Accepted c ∧ c.pollSettings = ⟨7, some 4, some 60000⟩ ∧
      forall around url log s,
        0 < Task.statusRequests around c.pollSettings url log s ∧
        Task.statusRequests around c.pollSettings url log s ≤ 4) ∧
    (exists e,
      load (repositoryAlone "[poll]\nmax_polls = 4294967296\n") (fun _ => none) "." = .error e) ∧
    (exists e,
      load (repositoryAlone "poll = [1000, -1, 5]\n") (fun _ => none) "." = .error e) := by
  refine ⟨?_, ?_, ?_⟩
  · have hload : load (repositoryAlone "poll = [7, 4, 60]\n") (fun _ => none) "." =
        .ok ⟨defaultServer, ⟨7, some 4, some 60⟩, "testdata"⟩ := by
      decide +kernel
    rcases (load_guarantees_waiting _ _ _).1 _ hload with ⟨haccepted, _hnumbers, hwaiting⟩
    refine ⟨_, hload, haccepted, rfl, ?_⟩
    intro around url log s
    rcases hwaiting around url log s with ⟨hsome, hmost, _hends⟩
    exact ⟨hsome, hmost 4 rfl⟩
  · have hwinner := @eq_integer_of_integer?
      (numericFields[2].winner?
        (documents (repositoryAlone "[poll]\nmax_polls = 4294967296\n") (layerPaths "." none)))
      4294967296 (by decide +kernel)
    exact (load_guarantees_waiting _ _ _).2 _ _ (List.getElem_mem _) hwinner (by decide)
  · have hwinner := @eq_integer_of_integer?
      (numericFields[2].winner?
        (documents (repositoryAlone "poll = [1000, -1, 5]\n") (layerPaths "." none)))
      (-1) (by decide +kernel)
    exact (load_guarantees_waiting _ _ _).2 _ _ (List.getElem_mem _) hwinner (by decide)

end Config
end AnalysisHarness
