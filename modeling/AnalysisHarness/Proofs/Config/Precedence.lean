import AnalysisHarness.Proofs.Config.Shadowing

/-!
# Which layer decides

The settings of a directory come from up to three files, each of which may set any of eight
fields. A field gets its value from the highest file that sets it, and its default if none does,
whatever the files say about other fields. The address of the server can be replaced by a variable.
-/

namespace AnalysisHarness
namespace Config

open Text Toml

/-!
## Fields
-/

/-- A value that stands for a text: a string, or a date or time as it is written. -/
inductive IsText : Value -> String -> Prop
  | string (s : String) : IsText (.string s) s
  | moment (m : Moment) : IsText (.moment m) (String.ofList m.write)

inductive IsNumber : Value -> Nat -> Prop
  | integer (n : Nat) : IsNumber (.integer n) n

inductive IsLimit : Value -> Option Nat -> Prop
  | integer (n : Nat) : IsLimit (.integer n) (some n)

/-- A field of a value that was found for it, or of the default where none was found. -/
inductive Settled {α : Type} (stands : Value -> α -> Prop) (default : α) :
    Option Value -> α -> Prop
  | unset : Settled stands default none default
  | set {v : Value} {x : α} (h : stands v x) : Settled stands default (some v) x

theorem isText_of_asWritten (v : Value) (s : String) (h : asWritten v = .ok s) : IsText v s := by
  cases v with
  | string s' => cases h; exact .string s
  | moment m => cases h; exact .moment m
  | _ => cases h

theorem eq_integer_of_asNatural {bound n : Nat} {v : Value} (h : asNatural bound v = .ok n) :
    v = .integer n ∧ n < bound := by
  cases v with
  | integer i =>
      rw [asNatural] at h
      split at h
      · rename_i hrange
        cases h
        have hnat : ((i.toNat : Nat) : Int) = i := Int.toNat_of_nonneg hrange.1
        exact ⟨congrArg Value.integer hnat.symm, by omega⟩
      · cases h
  | _ => cases h

theorem isNumber_of_asNatural {bound : Nat} (v : Value) (n : Nat)
    (h : asNatural bound v = .ok n) : IsNumber v n := by
  rw [(eq_integer_of_asNatural h).1]
  exact .integer n

theorem isLimit_of_asNatural {bound : Nat} (v : Value) (n : Nat)
    (h : asNatural bound v = .ok n) : IsLimit v (some n) := by
  rw [(eq_integer_of_asNatural h).1]
  exact .integer n

section Fields

variable {α : Type} {fields : Fields} {place : Nat} {key : String}
  {read : Value -> Except Misfit α}

theorem settled_of_withDefault {stands : Value -> α -> Prop} {default x : α}
    (hread : forall v x, read v = .ok x -> stands v x)
    (h : fields.withDefault place key read default = .ok x) :
    Settled stands default (fields.find? place key) x := by
  rw [Fields.withDefault] at h
  cases hfind : fields.find? place key with
  | none =>
      rw [hfind] at h
      cases h
      exact .unset
  | some v =>
      rw [hfind] at h
      exact .set (hread v x h)

theorem settled_of_optional {stands : Value -> Option α -> Prop} {x : Option α}
    (hread : forall v n, read v = .ok n -> stands v (some n))
    (h : fields.optional place key read = .ok x) :
    Settled stands none (fields.find? place key) x := by
  unfold Fields.optional at h
  cases hfind : fields.find? place key with
  | none =>
      rw [hfind] at h
      cases fields with
      | named entries =>
          cases h
          exact .unset
      | listed items => cases h
  | some v =>
      rw [hfind] at h
      rcases exists_of_map_eq_ok h with ⟨n, hn, hx⟩
      cases hx
      exact .set (hread v n hn)

end Fields

def Plain {α : Type} (stands : Value -> α -> Prop) : Prop :=
  forall v x, stands v x -> isTable v = false

theorem plain_isText : Plain IsText := by
  intro v s h
  cases h <;> rfl

theorem plain_isNumber : Plain IsNumber := by
  intro v n h
  cases h
  rfl

theorem plain_isLimit : Plain IsLimit := by
  intro v n h
  cases h
  rfl

/-!
## Settings

What is found for the fields is a function of the name of a section and a key.
-/

/--
The address of the server: the one a variable gives, without the blanks around it, or where the
variable is missing or blank a field as any other.
-/
inductive UrlSettled (found : Option Value) : Option String -> String -> Prop
  | variable {url : String} (h : isBlankText url = false) : UrlSettled found (some url) (trim url)
  | field {value : Option String} {url : String}
      (hblank : forall text, value = some text -> isBlankText text = true)
      (h : Settled IsText defaultServer.url found url) : UrlSettled found value url

/-- All fields are those of the values found for them, given the variable for the address. -/
structure SettledBy (found : String -> String -> Option Value) (value : Option String)
    (c : Config) : Prop where
  url : UrlSettled (found "server" "url") value c.server.url
  user : Settled IsText defaultServer.user (found "server" "user") c.server.user
  password : Settled IsText defaultServer.password (found "server" "password") c.server.password
  requestTimeoutSecs : Settled IsNumber defaultServer.requestTimeoutSecs
    (found "server" "request_timeout_secs") c.server.requestTimeoutSecs
  intervalMs : Settled IsNumber defaultPoll.intervalMs (found "poll" "interval_ms")
    c.poll.intervalMs
  maxPolls : Settled IsLimit defaultPoll.maxPolls (found "poll" "max_polls") c.poll.maxPolls
  timeoutSecs : Settled IsLimit defaultPoll.timeoutSecs (found "poll" "timeout_secs")
    c.poll.timeoutSecs
  testdata : Settled IsText defaultTestdata (found "paths" "testdata") c.testdata

/-- Where a section is missing, it is read as an empty one would be. -/
theorem read_sectionOf {α : Type} {name : String} {document : Value}
    {read : Value -> Except Misfit α} {default x : α} (hsection : Sectioned name document)
    (h : readSection document name read default = .ok x)
    (hempty : read (.table []) = .ok default) :
    read (.table (sectionOf name document)) = .ok x := by
  rw [readSection] at h
  have hleads := hsection.leads
  rw [leadsToTable] at hleads
  rw [sectionOf]
  cases hentry : document.entry? name with
  | none =>
      rw [hentry] at h
      cases h
      exact hempty
  | some v =>
      rw [hentry] at h hleads
      rcases exists_table_of_isTable hleads with ⟨entries, rfl⟩
      exact h

section Sections

variable {entries : List (String × Value)}

theorem settled_of_readServer {server : ServerSettings}
    (h : readServer (.table entries) = .ok server) :
    Settled IsText defaultServer.url (Keyed.find? entries "url") server.url ∧
    Settled IsText defaultServer.user (Keyed.find? entries "user") server.user ∧
    Settled IsText defaultServer.password (Keyed.find? entries "password")
      server.password ∧
    Settled IsNumber defaultServer.requestTimeoutSecs
      (Keyed.find? entries "request_timeout_secs") server.requestTimeoutSecs := by
  rcases exists_of_bind_eq_ok h with ⟨fields, hfields, h⟩
  cases hfields
  rcases exists_of_bind_eq_ok h with ⟨url, hurl, h⟩
  rcases exists_of_bind_eq_ok h with ⟨user, huser, h⟩
  rcases exists_of_bind_eq_ok h with ⟨password, hpassword, h⟩
  rcases exists_of_bind_eq_ok h with ⟨timeout, htimeout, h⟩
  cases h
  exact ⟨settled_of_withDefault isText_of_asWritten hurl,
    settled_of_withDefault isText_of_asWritten huser,
    settled_of_withDefault isText_of_asWritten hpassword,
    settled_of_withDefault isNumber_of_asNatural htimeout⟩

theorem settled_of_readPoll {poll : WaitSettings}
    (h : readPoll (.table entries) = .ok poll) :
    Settled IsNumber defaultPoll.intervalMs (Keyed.find? entries "interval_ms")
      poll.intervalMs ∧
    Settled IsLimit defaultPoll.maxPolls (Keyed.find? entries "max_polls")
      poll.maxPolls ∧
    Settled IsLimit defaultPoll.timeoutSecs (Keyed.find? entries "timeout_secs")
      poll.timeoutSecs := by
  rcases exists_of_bind_eq_ok h with ⟨fields, hfields, h⟩
  cases hfields
  rcases exists_of_bind_eq_ok h with ⟨interval, hinterval, h⟩
  rcases exists_of_bind_eq_ok h with ⟨maxPolls, hmaxPolls, h⟩
  rcases exists_of_bind_eq_ok h with ⟨timeout, htimeout, h⟩
  cases h
  exact ⟨settled_of_withDefault isNumber_of_asNatural hinterval,
    settled_of_optional isLimit_of_asNatural hmaxPolls,
    settled_of_optional isLimit_of_asNatural htimeout⟩

theorem settled_of_readPaths {testdata : String}
    (h : readPaths (.table entries) = .ok testdata) :
    Settled IsText defaultTestdata (Keyed.find? entries "testdata") testdata := by
  rcases exists_of_bind_eq_ok h with ⟨fields, hfields, h⟩
  cases hfields
  exact settled_of_withDefault isText_of_asWritten h

end Sections

def sectionNames : List String := ["server", "poll", "paths"]

theorem settledBy_of_ofValue {document : Value} {c : Config}
    (hsections : forall name, name ∈ sectionNames -> Sectioned name document)
    (h : ofValue document = .ok c) :
    SettledBy (fun name key => field? name key document) none c := by
  rcases exists_of_bind_eq_ok (mapError_eq_ok_iff.mp h) with ⟨server, hserver, h⟩
  rcases exists_of_bind_eq_ok h with ⟨poll, hpoll, h⟩
  rcases exists_of_bind_eq_ok h with ⟨testdata, hpaths, h⟩
  cases h
  have hs := settled_of_readServer
    (read_sectionOf (hsections "server" (by decide)) hserver rfl)
  have hp := settled_of_readPoll (read_sectionOf (hsections "poll" (by decide)) hpoll rfl)
  have ht := settled_of_readPaths (read_sectionOf (hsections "paths" (by decide)) hpaths rfl)
  rcases hs with ⟨hurl, huser, hpassword, hrequest⟩
  rcases hp with ⟨hinterval, hmax, htimeout⟩
  have hnone : forall text, (none : Option String) = some text -> isBlankText text = true :=
    fun _ h => nomatch h
  exact ⟨.field hnone hurl, huser, hpassword, hrequest, hinterval, hmax, htimeout, ht⟩

/-!
## Layers
-/

def document? (files : Workspace) (path : String) : Option Value :=
  (files.readText path).toOption.bind fun text => (Value.read text).toOption

def documents (files : Workspace) (paths : List String) : List Value :=
  paths.filterMap fun path => if files.exists? path then document? files path else none

theorem toOption_readDocument [Wording] (files : Workspace) (path : String) :
    (readDocument files path).toOption = document? files path := by
  unfold readDocument document?
  cases files.readText path with
  | error e => rfl
  | ok text =>
      show _ = (Value.read text).toOption
      dsimp only [Failure.ofIo, bind, Except.bind]
      cases Value.read text with
      | error e => rfl
      | ok document => rfl

theorem foldlM_addLayer [Wording] {files : Workspace} {paths : List String} {base merged : Value}
    (h : paths.foldlM (addLayer files) base = .ok merged) :
    merged = (documents files paths).foldl overlay base := by
  induction paths generalizing base with
  | nil =>
      cases h
      rfl
  | cons path paths ih =>
      rw [List.foldlM_cons] at h
      rcases exists_of_bind_eq_ok h with ⟨next, hnext, h⟩
      rw [addLayer] at hnext
      rw [documents, List.filterMap_cons]
      split at hnext
      · rename_i hthere
        rcases exists_of_bind_eq_ok hnext with ⟨layer, hlayer, hnext⟩
        cases hnext
        rw [if_pos hthere, ← toOption_readDocument, hlayer]
        exact ih h
      · rename_i hmissing
        cases hnext
        rw [if_neg hmissing]
        exact ih h

theorem exists_sorted_table_of_mem_documents {files : Workspace} {paths : List String}
    {document : Value} (h : document ∈ documents files paths) :
    exists entries, document = .table entries ∧ document.Sorted := by
  rcases List.mem_filterMap.mp h with ⟨path, _hpath, hdocument⟩
  rcases Option.ite_none_right_eq_some.mp hdocument with ⟨_hthere, hdocument⟩
  rcases Option.bind_eq_some_iff.mp hdocument with ⟨text, _htext, hread⟩
  exact exists_sorted_table_of_read (toOption_eq_some_iff.mp hread)

theorem settledBy_withUrl {found : String -> String -> Option Value} {c : Config}
    (h : SettledBy found none c) (value : Option String) :
    SettledBy found value (c.withUrl value) := by
  have hfield : Settled IsText defaultServer.url (found "server" "url") c.server.url := by
    cases h.url with
    | field _hblank hfield => exact hfield
  cases value with
  | none => exact h
  | some text =>
      rw [withUrl]
      split
      · rename_i hblank
        refine { h with url := .field ?_ hfield }
        intro other hother
        cases hother
        exact hblank
      · rename_i hblank
        exact { h with url := .variable (Bool.eq_false_iff.mpr hblank) }

/-- A field of a pile of documents is that of the highest one. -/
theorem settled_highest {α : Type} {stands : Value -> α -> Prop} (hplain : Plain stands)
    {default x : α} {name key : String} {layers : List Value} (hlayers : Layered name layers)
    (h : Settled stands default (field? name key (layers.foldl overlay (.table []))) x) :
    Settled stands default (highest? name key layers) x := by
  have htables : Tables layers := by
    intro document hmem
    rcases hlayers document hmem with ⟨hsorted, hsection⟩
    rcases exists_table_of_isTable hsection.whole with ⟨entries, rfl⟩
    exact ⟨entries, rfl, hsorted⟩
  have hbase : Sectioned name (.table []) := ⟨rfl, rfl⟩
  have hmerged := sectioned_foldl_overlay hbase hlayers
  -- the place of a field does not matter where sections are tables
  rw [← @found?_eq_field? name key 0 _ hmerged.leads] at h
  have hwinner := found?_foldl_overlay htables fun v hv => by
    rw [hv] at h
    cases h with
    | set hstands => exact hplain v x hstands
  rw [hwinner, winner?_eq_highest? fun document hmem => (hlayers document hmem).2.leads] at h
  exact h

theorem settledBy_highest {layers : List Value} {c : Config}
    (hlayers : forall name, name ∈ sectionNames -> Layered name layers)
    (h : SettledBy (fun name key => field? name key (layers.foldl overlay (.table []))) none c) :
    SettledBy (fun name key => highest? name key layers) none c := by
  have hserver := hlayers "server" (by decide)
  have hpoll := hlayers "poll" (by decide)
  have hpaths := hlayers "paths" (by decide)
  have hurl : Settled IsText defaultServer.url (highest? "server" "url" layers) c.server.url := by
    cases h.url with
    | field _hblank hfield => exact settled_highest plain_isText hserver hfield
  exact
    { url := .field (fun _ h => nomatch h) hurl
      user := settled_highest plain_isText hserver h.user
      password := settled_highest plain_isText hserver h.password
      requestTimeoutSecs := settled_highest plain_isNumber hserver h.requestTimeoutSecs
      intervalMs := settled_highest plain_isNumber hpoll h.intervalMs
      maxPolls := settled_highest plain_isLimit hpoll h.maxPolls
      timeoutSecs := settled_highest plain_isLimit hpoll h.timeoutSecs
      testdata := settled_highest plain_isText hpaths h.testdata }

/-!
## Loading
-/

/--
If the sections of all files that are there are tables, the settings that are loaded have each
field from the highest file that sets it, except that the variable can replace the address.
-/
theorem load_settled_by_highest_layer [Wording] {files : Workspace}
    {environment : String -> Option String} {root : String} {c : Config}
    (htables : forall document,
      document ∈ documents files (layerPaths root (environment "HOME")) ->
      forall name, name ∈ sectionNames -> leadsToTable name document = true)
    (hload : load files environment root = .ok c) :
    SettledBy (fun name key =>
        highest? name key (documents files (layerPaths root (environment "HOME"))))
      (environment urlVariable) c := by
  rcases exists_of_bind_eq_ok hload with ⟨configured, hconfigured, hload⟩
  rcases exists_of_bind_eq_ok hload with ⟨_, _hvalid, hload⟩
  cases hload
  rcases exists_of_bind_eq_ok hconfigured with ⟨merged, hmerged, hconfigured⟩
  have hread : ofValue merged = .ok configured := by
    split at hconfigured
    · cases hconfigured
      assumption
    · cases hconfigured
  rw [foldlM_addLayer hmerged] at hread
  have hlayers : forall name, name ∈ sectionNames ->
      Layered name (documents files (layerPaths root (environment "HOME"))) := by
    intro name hname document hdocument
    rcases exists_sorted_table_of_mem_documents hdocument with ⟨entries, rfl, hsorted⟩
    exact ⟨hsorted, rfl, htables _ hdocument name hname⟩
  have hsections : forall name, name ∈ sectionNames -> Sectioned name
      ((documents files (layerPaths root (environment "HOME"))).foldl overlay (.table [])) :=
    fun name hname => sectioned_foldl_overlay ⟨rfl, rfl⟩ (hlayers name hname)
  have hsettled := settledBy_highest hlayers (settledBy_of_ofValue hsections hread)
  exact settledBy_withUrl hsettled (environment urlVariable)

def threeLayers : Workspace :=
  [("u/.config/sonar-harness/config.toml",
      "[server]\nurl = \"http://u\"\nuser = \"u\"\n[poll]\nmax_polls = 4\n"),
    ("r/sonar-harness.toml",
      "server.user = \"r\"\nserver.request_timeout_secs = 5\npoll.interval_ms = 20\n"),
    ("r/.sonar-harness/local.toml",
      "[poll]\ninterval_ms = 7\n[server]\npassword = \"l\"\n[paths]\ntestdata = \"t\"\n")].foldl
    (fun files file => (files.writeWithin file.1 (Text.encode file.2)).toOption.getD files) .empty

def homeAlone (name : String) : Option String := if name = "HOME" then some "u" else none

attribute [local instance] Wording.sample

theorem load_of_three_layers_settled_by_highest :
    (forall document, document ∈ documents threeLayers (layerPaths "r" (homeAlone "HOME")) ->
      forall name, name ∈ sectionNames -> leadsToTable name document = true) ∧
    load threeLayers homeAlone "r" =
      .ok ⟨⟨"http://u", "r", "l", 5⟩, ⟨7, some 4, none⟩, "t"⟩ ∧
    SettledBy (fun name key =>
        highest? name key (documents threeLayers (layerPaths "r" (homeAlone "HOME"))))
      (homeAlone urlVariable) ⟨⟨"http://u", "r", "l", 5⟩, ⟨7, some 4, none⟩, "t"⟩ := by
  have htables : forall document,
      document ∈ documents threeLayers (layerPaths "r" (homeAlone "HOME")) ->
      forall name, name ∈ sectionNames -> leadsToTable name document = true := by
    decide +kernel
  have hload : load threeLayers homeAlone "r" =
      .ok ⟨⟨"http://u", "r", "l", 5⟩, ⟨7, some 4, none⟩, "t"⟩ := by
    decide +kernel
  exact ⟨htables, hload, load_settled_by_highest_layer htables hload⟩

end Config
end AnalysisHarness
