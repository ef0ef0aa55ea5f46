import AnalysisHarness.Failure
import AnalysisHarness.Task.Poll
import AnalysisHarness.Toml.Fields
import AnalysisHarness.Toml.Reader

/-!
# Settings

Where the server is, how to wait for it, and where the sample projects are. Everything has a
default. Settings that cannot be meant are refused.
-/

namespace AnalysisHarness

open Text

structure ServerSettings where
  url : String
  user : String
  password : String
  requestTimeoutSecs : Nat
  deriving DecidableEq, Repr

structure WaitSettings where
  intervalMs : Nat
  maxPolls : Option Nat
  timeoutSecs : Option Nat
  deriving DecidableEq, Repr

structure Config where
  server : ServerSettings
  poll : WaitSettings
  testdata : String
  deriving DecidableEq, Repr

namespace Config

open Toml

def defaultServer : ServerSettings := ⟨"http://localhost:9000", "admin", "admin", 10⟩

def defaultPoll : WaitSettings := ⟨1000, none, none⟩

def defaultTestdata : String := "testdata"

def default : Config := ⟨defaultServer, defaultPoll, defaultTestdata⟩

def sectionFields (count : Nat) (v : Value) : Except Misfit Fields := do
  let fields ← Fields.ofValue v
  if fields.exceeds count then .error .tooLong else pure fields

def readServer (v : Value) : Except Misfit ServerSettings := do
  let fields ← sectionFields 4 v
  let url ← fields.withDefault 0 "url" asWritten defaultServer.url
  let user ← fields.withDefault 1 "user" asWritten defaultServer.user
  let password ← fields.withDefault 2 "password" asWritten defaultServer.password
  let timeout ←
    fields.withDefault 3 "request_timeout_secs" (asNatural (2 ^ 64))
      defaultServer.requestTimeoutSecs
  pure ⟨url, user, password, timeout⟩

def readPoll (v : Value) : Except Misfit WaitSettings := do
  let fields ← sectionFields 3 v
  let interval ←
    fields.withDefault 0 "interval_ms" (asNatural (2 ^ 64)) defaultPoll.intervalMs
  let maxPolls ← fields.optional 1 "max_polls" (asNatural (2 ^ 32))
  let timeout ← fields.optional 2 "timeout_secs" (asNatural (2 ^ 64))
  pure ⟨interval, maxPolls, timeout⟩

def readPaths (v : Value) : Except Misfit String := do
  let fields ← sectionFields 1 v
  fields.withDefault 0 "testdata" asWritten defaultTestdata

def readSection (document : Value) (name : String) (read : Value -> Except Misfit α)
    (default : α) : Except Misfit α :=
  match document.entry? name with
  | none => .ok default
  | some v => read v

def readSections (document : Value) : Except Misfit Config := do
  let server ← readSection document "server" readServer defaultServer
  let poll ← readSection document "poll" readPoll defaultPoll
  let testdata ← readSection document "paths" readPaths defaultTestdata
  pure ⟨server, poll, testdata⟩

def ofValue (document : Value) : Except ShapeError Config :=
  (readSections document).mapError fun misfit => ⟨misfit, document⟩

def isWebAddress (url : String) : Bool :=
  startsWith "http://" url || startsWith "https://" url

def complaint? (c : Config) : Option String :=
  let url := trim c.server.url
  if url = "" then some "server.url cannot be empty"
  else if !isWebAddress url then some ("server.url must be an http(s) URL: " ++ url)
  else if c.server.requestTimeoutSecs = 0 then
    some "server.request_timeout_secs must be greater than 0"
  else if c.poll.intervalMs = 0 then some "poll.interval_ms must be greater than 0"
  else if c.poll.maxPolls = some 0 then some "poll.max_polls must be greater than 0"
  else if c.poll.timeoutSecs = some 0 then some "poll.timeout_secs must be greater than 0"
  else if isBlankText c.testdata then some "paths.testdata cannot be empty"
  else none

def validate (c : Config) : Except Failure Unit :=
  match c.complaint? with
  | none => .ok ()
  | some reason => .error (.configParse reason)

def pollSettings (c : Config) : Task.PollSettings :=
  ⟨c.poll.intervalMs, c.poll.maxPolls, c.poll.timeoutSecs.map (· * 1000)⟩

end Config
end AnalysisHarness
