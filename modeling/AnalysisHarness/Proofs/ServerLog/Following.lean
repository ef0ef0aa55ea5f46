import AnalysisHarness.Proofs.Log.Verdict
import AnalysisHarness.Proofs.ServerLog.Growing
import AnalysisHarness.Proofs.Workspace.Hollow
import AnalysisHarness.Scenario.Step

/-!
# What checks of a server log see

Logs are followed, appended to and checked in any order. A ledger keeps, for the file that is
followed, the bytes appended to it since it was last looked at. Every check answers by these bytes
alone: the position in the open file always stands where they begin.
-/

namespace AnalysisHarness
namespace ServerLog

open Text

/-! ## Events -/

def isFileOrAbsent (files : Workspace) (path : String) : Bool :=
  match files.find path with
  | .ok node => files.isFileNode node
  | .error _ => true

inductive Event where
  | follow (today : Date) (home : Option String)
  | append (path : String) (bytes : Bytes)
  | check

namespace Event

def context (ctx : StepContext) (files : Workspace) : Event -> StepContext
  | follow today home => ctx.followServerLog files today home
  | append _ _ => ctx
  | check => (ctx.checkServerLog files).2

def disk (files : Workspace) : Event -> Workspace
  | follow _ _ => files
  | append path bytes => files.appended path bytes
  | check => files

def answer (ctx : StepContext) (files : Workspace) : Event -> List (Except Failure Unit)
  | follow _ _ => []
  | append _ _ => []
  | check => [(ctx.checkServerLog files).1]

/-- Whether today's log is a file, if it is there at all, when it comes to be followed. -/
def regular (files : Workspace) : Event -> Bool
  | follow _ none => true
  | follow today (some home) => isFileOrAbsent files (dailyFile home today)
  | append _ _ => true
  | check => true

end Event

def answers : List Event -> StepContext -> Workspace -> List (Except Failure Unit)
  | [], _, _ => []
  | event :: events, ctx, files =>
      event.answer ctx files ++ answers events (event.context ctx files) (event.disk files)

def regular : List Event -> Workspace -> Bool
  | [], _ => true
  | event :: events, files => event.regular files && regular events (event.disk files)

/-! ## The ledger -/

structure Followed where
  path : String
  node : NodeId
  fresh : Bytes

/--
The lines of fresh bytes. Each piece up to its line feed is decoded by itself, and all carriage
returns and line feeds are taken off its end.
-/
def freshLines (fresh : Bytes) : List String :=
  (pieces 10 fresh).map fun piece =>
    String.ofList (dropEndWhile (fun c => c == '\n' || c == '\r') (decodeLenient piece).toList)

/--
The answer that a check owes: it fails if some line of what is fresh is an error or a warning that
counts. Where no file is followed it succeeds.
-/
def owed : Option Followed -> Except Failure Unit
  | none => .ok ()
  | some followed =>
      let lines := freshLines followed.fresh
      if forall line, line ∈ lines ->
          Log.classify none line ≠ .error ∧ Log.classify none line ≠ .warning then .ok ()
      else
        .error (.badLogLines
          (LogReport.badLinesMessage ⟨followed.path, .ofLines none lines⟩ .plain))

def begun (files : Workspace) (path : String) : Option Followed :=
  match files.find path with
  | .ok node => some ⟨path, node, []⟩
  | .error _ => none

def Followed.isAt (followed : Followed) (files : Workspace) (path : String) : Bool :=
  match files.find path with
  | .ok node => node == followed.node
  | .error _ => false

def Followed.extend (followed : Followed) (files : Workspace) (path : String) (bytes : Bytes) :
    Followed :=
  if followed.isAt files path then { followed with fresh := followed.fresh ++ bytes }
  else followed

def Followed.seen (followed : Followed) : Followed := { followed with fresh := [] }

namespace Event

/-- The ledger after an event. -/
def ledger (files : Workspace) (entry : Option Followed) : Event -> Option Followed
  | follow _ none => none
  | follow today (some home) => begun files (dailyFile home today)
  | append path bytes => entry.map fun followed => followed.extend files path bytes
  | check => entry.map Followed.seen

def due (entry : Option Followed) : Event -> List (Except Failure Unit)
  | follow _ _ => []
  | append _ _ => []
  | check => [owed entry]

end Event

def owedAnswers : List Event -> Option Followed -> Workspace -> List (Except Failure Unit)
  | [], _, _ => []
  | event :: events, entry, files =>
      event.due entry ++ owedAnswers events (event.ledger files entry) (event.disk files)

/-! ## One event -/

/-- The open file stands where the fresh bytes of the ledger begin. -/
inductive Tracks (files : Workspace) : Option Tail -> Option Followed -> Prop where
  | nothing : Tracks files none none
  | file {tail : Tail} {followed : Followed} {old : Bytes} (hpath : tail.path = followed.path)
      (hnode : tail.node = followed.node)
      (hfile : files.node? followed.node = some (.file (old ++ followed.fresh)))
      (hoffset : tail.offset = old.length) :
      Tracks files (some tail) (some followed)

theorem isAt_iff {followed : Followed} {files : Workspace} {path : String} :
    followed.isAt files path = true <-> files.find path = .ok followed.node := by
  rw [Followed.isAt]
  cases files.find path with
  | error e => simp
  | ok node => simp

theorem serverLog_follow (ctx : StepContext) (files : Workspace) (today : Date) (home : String) :
    (ctx.followServerLog files today (some home)).serverLog =
      (Tail.start files (dailyFile home today)).toOption := by
  simp only [StepContext.followServerLog]

/-- A log that is opened is read from its end on, and the entry of the ledger begins anew. -/
theorem tracks_start {files : Workspace} {path : String}
    (hregular : isFileOrAbsent files path = true) :
    Tracks files (Tail.start files path).toOption (begun files path) := by
  rw [isFileOrAbsent] at hregular
  rw [Tail.start, begun]
  cases hfind : files.find path with
  | error e => exact .nothing
  | ok node =>
      rw [hfind] at hregular
      rcases Workspace.exists_bytes_of_isFileNode hregular with ⟨bytes, hnode⟩
      have hsize : files.bytesOf node = .ok bytes := by rw [Workspace.bytesOf, hnode]
      change Tracks files (some ⟨path, node, ((files.bytesOf node).toOption.getD []).length⟩) _
      rw [hsize]
      refine @Tracks.file files _ _ bytes rfl rfl ?_ rfl
      rw [List.append_nil]
      exact hnode

theorem tracks_follow {ctx : StepContext} {files : Workspace} {entry : Option Followed}
    (today : Date) (home : Option String)
    (hregular : (Event.follow today home).regular files = true) :
    Tracks files (ctx.followServerLog files today home).serverLog
      ((Event.follow today home).ledger files entry) := by
  cases home with
  | none => exact .nothing
  | some home =>
      rw [serverLog_follow, Event.ledger]
      exact tracks_start hregular

/-- An append to the followed file is fresh; others leave the file and the entry as they are. -/
theorem tracks_append {files : Workspace} {tail : Option Tail} {entry : Option Followed}
    (h : Tracks files tail entry) (path : String) (bytes : Bytes) :
    Tracks (files.appended path bytes) tail ((Event.append path bytes).ledger files entry) := by
  cases h with
  | nothing => exact .nothing
  | @file tail followed old hpath hnode hfile hoffset =>
      change Tracks _ (some tail) (some (followed.extend files path bytes))
      rw [Followed.extend]
      split
      · rename_i hat
        have happended := Workspace.node?_appended_of_find (isAt_iff.mp hat) hfile bytes
        rw [List.append_assoc] at happended
        exact .file hpath hnode happended hoffset
      · rename_i hat
        have hkept := Workspace.node?_appended_of_ne (mt isAt_iff.mpr hat) hfile bytes
        exact .file hpath hnode hkept hoffset

theorem linesOfBytes_eq_freshLines (fresh : Bytes) :
    Tail.linesOfBytes fresh = freshLines fresh := rfl

theorem check_eq_owed (followed : Followed) :
    LogReport.check ⟨followed.path, .ofLines none (freshLines followed.fresh)⟩ =
      owed (some followed) := by
  rw [LogReport.check, owed]
  simp only [LogReport.isClean, Log.isClean_ofLines_iff]

/-- A check answers what is owed and leaves nothing fresh behind. -/
theorem tracks_check {ctx : StepContext} {files : Workspace} {entry : Option Followed}
    (h : Tracks files ctx.serverLog entry) :
    (ctx.checkServerLog files).1 = owed entry ∧
      Tracks files (ctx.checkServerLog files).2.serverLog (Event.check.ledger files entry) := by
  rw [StepContext.checkServerLog]
  generalize htail : ctx.serverLog = tail at h
  cases h with
  | nothing =>
      refine ⟨rfl, ?_⟩
      rw [htail]
      exact .nothing
  | @file tail followed old hpath hnode hfile hoffset =>
      have hwritten : files.node? tail.node = some (.file (old ++ followed.fresh)) := by
        rw [hnode]
        exact hfile
      have hread := readNew_of_fresh hwritten hoffset
      rw [linesOfBytes_eq_freshLines] at hread
      simp only [hread]
      constructor
      · rw [hpath]
        exact check_eq_owed followed
      · refine @Tracks.file files _ followed.seen (old ++ followed.fresh) hpath hnode ?_ rfl
        rw [Followed.seen, List.append_nil]
        exact hfile

/-! ## Runs of events -/

theorem answers_eq_owedAnswers {events : List Event} {ctx : StepContext} {files : Workspace}
    {entry : Option Followed} (h : Tracks files ctx.serverLog entry)
    (hregular : regular events files = true) :
    answers events ctx files = owedAnswers events entry files := by
  induction events generalizing ctx files entry with
  | nil => rfl
  | cons event events ih =>
      rw [regular, Bool.and_eq_true] at hregular
      rw [answers, owedAnswers]
      cases event with
      | follow today home => exact ih (tracks_follow today home hregular.1) hregular.2
      | append path bytes => exact ih (tracks_append h path bytes) hregular.2
      | check =>
          rcases tracks_check h with ⟨hanswer, htracks⟩
          change (ctx.checkServerLog files).1 :: answers events (ctx.checkServerLog files).2 files =
            owed entry :: owedAnswers events (Event.check.ledger files entry) files
          rw [hanswer, ih htracks hregular.2]

/-! ## What does not matter -/

/--
Two sequences of events that are the same but for what is appended to files that are not followed
at the time.
-/
inductive Alike : Option Followed -> Workspace -> List Event -> List Event -> Prop where
  | done {entry : Option Followed} {files : Workspace} : Alike entry files [] []
  | same {entry : Option Followed} {files : Workspace} {events others : List Event} (event : Event)
      (h : Alike (event.ledger files entry) (event.disk files) events others) :
      Alike entry files (event :: events) (event :: others)
  | elsewhere {entry : Option Followed} {files : Workspace} {events others : List Event}
      (path : String) (bytes other : Bytes)
      (hother : forall followed, entry = some followed -> followed.isAt files path = false)
      (h : Alike entry (files.appended path bytes) events others) :
      Alike entry files (.append path bytes :: events) (.append path other :: others)

theorem isFileOrAbsent_congr {files others : Workspace} (h : files.hollow = others.hollow)
    (path : String) : isFileOrAbsent files path = isFileOrAbsent others path := by
  rw [isFileOrAbsent, isFileOrAbsent, Workspace.find_congr h]
  cases others.find path with
  | error e => rfl
  | ok node => exact Workspace.isFileNode_congr h node

theorem regular_event_congr {files others : Workspace} (h : files.hollow = others.hollow)
    (event : Event) : event.regular files = event.regular others := by
  cases event with
  | follow today home =>
      cases home with
      | none => rfl
      | some home => exact isFileOrAbsent_congr h (dailyFile home today)
  | append path bytes => rfl
  | check => rfl

theorem isAt_congr {files others : Workspace} (h : files.hollow = others.hollow)
    (followed : Followed) (path : String) :
    followed.isAt files path = followed.isAt others path := by
  rw [Followed.isAt, Followed.isAt, Workspace.find_congr h]

theorem ledger_congr {files others : Workspace} (h : files.hollow = others.hollow)
    (entry : Option Followed) (event : Event) :
    event.ledger files entry = event.ledger others entry := by
  cases event with
  | follow today home =>
      cases home with
      | none => rfl
      | some home =>
          rw [Event.ledger, Event.ledger, begun, begun, Workspace.find_congr h]
  | append path bytes =>
      rw [Event.ledger, Event.ledger]
      simp only [Followed.extend, isAt_congr h]
  | check => rfl

theorem hollow_disk_congr {files others : Workspace} (h : files.hollow = others.hollow)
    (event : Event) : (event.disk files).hollow = (event.disk others).hollow := by
  cases event with
  | follow today home => exact h
  | append path bytes => exact Workspace.hollow_appended_congr h path bytes bytes
  | check => exact h

theorem ledger_append_elsewhere {entry : Option Followed} {files : Workspace} {path : String}
    (h : forall followed, entry = some followed -> followed.isAt files path = false)
    (bytes : Bytes) : (Event.append path bytes).ledger files entry = entry := by
  rw [Event.ledger]
  cases entry with
  | none => rfl
  | some followed =>
      rw [Option.map_some, Followed.extend, h followed rfl]
      rfl

theorem owedAnswers_congr {entry : Option Followed} {files : Workspace} {events others : List Event}
    (h : Alike entry files events others) {disk : Workspace} (hdisk : files.hollow = disk.hollow) :
    owedAnswers others entry disk = owedAnswers events entry files := by
  induction h generalizing disk with
  | done => rfl
  | same event h ih =>
      rw [owedAnswers, owedAnswers, ← ledger_congr hdisk, ih (hollow_disk_congr hdisk event)]
  | @elsewhere entry files events others path bytes other hother h ih =>
      have hdisk' : forall followed, entry = some followed -> followed.isAt disk path = false := by
        intro followed hentry
        rw [← isAt_congr hdisk]
        exact hother followed hentry
      rw [owedAnswers, owedAnswers, ledger_append_elsewhere hother, ledger_append_elsewhere hdisk']
      exact congrArg _ (ih (Workspace.hollow_appended_congr hdisk path bytes other))

theorem regular_congr {entry : Option Followed} {files : Workspace} {events others : List Event}
    (h : Alike entry files events others) {disk : Workspace} (hdisk : files.hollow = disk.hollow) :
    regular others disk = regular events files := by
  induction h generalizing disk with
  | done => rfl
  | same event h ih =>
      rw [regular, regular, ← regular_event_congr hdisk, ih (hollow_disk_congr hdisk event)]
  | elsewhere path bytes other hother h ih =>
      rw [regular, regular]
      exact congrArg _ (ih (Workspace.hollow_appended_congr hdisk path bytes other))

/--
Whatever is followed, appended and checked in whatever order, each check answers for the bytes
that were appended to the followed file since it was followed or last checked. What files held
before, and what is appended to files that are not followed, makes no difference to any check.
-/
theorem checks_answer_for_fresh_bytes {ctx : StepContext} {files : Workspace} {events : List Event}
    (hstart : ctx.serverLog = none) (hregular : regular events files = true) :
    answers events ctx files = owedAnswers events none files ∧
      forall others disk, Alike none files events others -> files.hollow = disk.hollow ->
        answers others ctx disk = answers events ctx files := by
  have htracks (disk : Workspace) : Tracks disk ctx.serverLog none := by
    rw [hstart]
    exact .nothing
  have howed := answers_eq_owedAnswers (htracks files) hregular
  refine ⟨howed, ?_⟩
  intro others disk halike hdisk
  rw [← regular_congr halike hdisk] at hregular
  rw [answers_eq_owedAnswers (htracks disk) hregular, howed]
  exact owedAnswers_congr halike hdisk

def twoServers : Workspace where
  nodes := [.directory 0 (.mk [("a", 1), ("b", 2)]), .directory 0 (.mk [("logs", 3)]),
    .directory 0 (.mk [("logs", 4)]), .directory 1 (.mk [("sonar-20160307.log", 5)]),
    .directory 2 (.mk [("sonar-20160307.log", 6)]), .file (encode "an ERROR before\n"),
    .file (encode "an ERROR before\n")]
  current := 0

def twoFollowed : List Event :=
  [.check, .follow ⟨2016, 3, 7⟩ (some "a"), .check,
    .append "a/logs/sonar-20160307.log"
      (encode "an ERROR here\r\n WARN Starting web"), .check, .check,
    .follow ⟨2016, 3, 7⟩ (some "b"),
    .append "a/logs/sonar-20160307.log" (encode "a late ERROR now\n"), .check,
    .append "b/logs/sonar-20160307.log" (encode "a WARN here"), .check,
    .follow ⟨2016, 3, 7⟩ none, .append "b/logs/sonar-20160307.log" (encode "an ERROR here"), .check]

def freshContext : StepContext := ⟨"sample", "projects/sample", "_sample_.log", none, none⟩

theorem checks_answer_for_fresh_bytes_of_two_servers :
    regular twoFollowed twoServers = true ∧
      (answers twoFollowed freshContext twoServers).map Except.isOk =
        [true, true, false, true, true, false, true] := by
  have hregular : regular twoFollowed twoServers = true := by decide +kernel
  have hanswers := (@checks_answer_for_fresh_bytes freshContext _ _ rfl hregular).1
  refine ⟨hregular, (congrArg (List.map Except.isOk) hanswers).trans ?_⟩
  decide +kernel

end ServerLog
end AnalysisHarness
