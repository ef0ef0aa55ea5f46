import AnalysisHarness.Config.Layers
import AnalysisHarness.Measures.Check
import AnalysisHarness.Proofs.Outcome
import AnalysisHarness.Proofs.Text.Ends

/-!
# Addresses that are loaded

Settings are refused unless the address of the server, without blanks around it, has a scheme.
The address that is kept is the one that was written, blanks and all, unless it comes from the
variable. Where measures can be asked for depends on what is kept.
-/

namespace AnalysisHarness
namespace Config

open Text Measures

/-!
## Schemes
-/

def schemes : List String := ["http://", "https://"]

theorem isWebAddress_iff (url : String) :
    isWebAddress url = true <-> exists scheme, scheme ∈ schemes ∧ scheme.toList <+: url.toList := by
  unfold isWebAddress schemes
  rw [Bool.or_eq_true, startsWith_iff, startsWith_iff]
  simp

theorem scheme_chars : forall scheme, scheme ∈ schemes ->
    'a' ∉ scheme.toList ∧ scheme.toList.head? = some 'h' ∧ scheme.toList.getLast? = some '/' ∧
      scheme.toList.dropLast.getLast? = some '/' := by
  decide

theorem prefix_of_prefix_append {scheme server rest : List Char} (ha : 'a' ∉ scheme)
    (hslash : scheme.dropLast.getLast? = some '/') (hserver : server.getLast? ≠ some '/')
    (h : scheme <+: server ++ '/' :: 'a' :: rest) : scheme <+: server := by
  rw [List.append_cons] at h
  -- the path begins with a letter that no scheme has, so at most its slash could be reached
  rcases List.prefix_concat_iff.mp (prefix_append_cons ha h) with hwhole | hshort
  · rw [hwhole, List.dropLast_concat] at hslash
    exact absurd hslash hserver
  · exact hshort

/-!
## Addresses
-/

/-- An address with a scheme in front and no blanks around it. -/
structure CleanAddress (url : String) : Prop where
  scheme : isWebAddress url = true
  unpadded : Unpadded url.toList

/-- An address that, without the slashes at its end, goes on behind a scheme up to no blank. -/
def NamesHost (url : String) : Prop :=
  exists scheme host last, scheme ∈ schemes ∧
    dropEndWhile (· == '/') url.toList = scheme.toList ++ host ∧ host.getLast? = some last ∧
    isBlank last = false

def measuresPath (project : String) (metrics : List String) : String :=
  "/api/resources?resource=" ++ project ++ "&metrics=" ++ String.intercalate "," metrics

/-- Measures are asked for at an address with a scheme and with no blank before the path. -/
def Usable (server project : String) (metrics : List String) : Prop :=
  isWebAddress (measuresUrl server project metrics) = true ∧
    exists before, measuresUrl server project metrics = before ++ measuresPath project metrics ∧
      forall c, before.toList.getLast? = some c -> isBlank c = false

theorem measuresUrl_eq (server project : String) (metrics : List String) :
    measuresUrl server project metrics =
      String.ofList (dropEndWhile (· == '/') server.toList) ++ measuresPath project metrics := by
  unfold measuresUrl measuresPath
  simp only [String.append_assoc]

theorem toList_measuresPath (project : String) (metrics : List String) :
    exists rest, (measuresPath project metrics).toList = '/' :: 'a' :: rest := by
  unfold measuresPath
  simp only [String.toList_append, List.append_assoc]
  exact ⟨_, rfl⟩

theorem namesHost_of_usable {server project : String} {metrics : List String}
    (h : Usable server project metrics) : NamesHost server := by
  rcases h with ⟨haddress, before, hbefore, hlast⟩
  rw [measuresUrl_eq] at haddress hbefore
  have hserver : before.toList = dropEndWhile (· == '/') server.toList := by
    have heq := congrArg String.toList hbefore
    rw [String.toList_append, String.toList_append, String.toList_ofList] at heq
    exact (List.append_cancel_right heq).symm
  rw [hserver] at hlast
  have hnoslash : (dropEndWhile (· == '/') server.toList).getLast? ≠ some '/' := by
    intro hslash
    have hnot := not_of_getLast?_dropEndWhile hslash
    cases hnot
  rcases (isWebAddress_iff _).mp haddress with ⟨scheme, hscheme, hprefix⟩
  rcases scheme_chars scheme hscheme with ⟨ha, _hhead, hend, hslash⟩
  rcases toList_measuresPath project metrics with ⟨rest, hrest⟩
  rw [String.toList_append, String.toList_ofList, hrest] at hprefix
  rcases prefix_of_prefix_append ha hslash hnoslash hprefix with ⟨host, hhost⟩
  cases hhostLast : host.getLast? with
  | none =>
      rw [List.getLast?_eq_none_iff] at hhostLast
      rw [hhostLast, List.append_nil] at hhost
      rw [hhost] at hend
      exact absurd hend hnoslash
  | some last =>
      refine ⟨scheme, host, last, hscheme, hhost.symm, hhostLast, ?_⟩
      apply hlast
      rw [← hhost, List.getLast?_append, hhostLast]
      rfl

theorem NamesHost.exists_last {server : String} (h : NamesHost server) :
    exists last, (dropEndWhile (· == '/') server.toList).getLast? = some last ∧
      isBlank last = false := by
  rcases h with ⟨scheme, host, last, _hscheme, hserver, hlast, hblank⟩
  refine ⟨last, ?_, hblank⟩
  rw [hserver, List.getLast?_append, hlast]
  rfl

theorem usable_of_namesHost {server : String} (h : NamesHost server) (project : String)
    (metrics : List String) : Usable server project metrics := by
  rcases h.exists_last with ⟨last, hlast, hblank⟩
  rcases h with ⟨scheme, host, _last, hscheme, hserver, _hlast, _hblank⟩
  unfold Usable
  rw [measuresUrl_eq]
  constructor
  · apply (isWebAddress_iff _).mpr
    refine ⟨scheme, hscheme, ?_⟩
    rw [String.toList_append, String.toList_ofList, hserver, List.append_assoc]
    exact List.prefix_append _ _
  · refine ⟨_, rfl, ?_⟩
    intro c hc
    rw [String.toList_ofList, hlast] at hc
    cases hc
    exact hblank

/-- An address that names a host has no blanks around it. -/
theorem cleanAddress_of_namesHost {url : String} (h : NamesHost url) : CleanAddress url := by
  rcases h.exists_last with ⟨last, hlast, hblank⟩
  rcases h with ⟨scheme, host, _last, hscheme, hserver, _hlast, _hblank⟩
  have hprefix : scheme.toList <+: url.toList := by
    have hhost : scheme.toList <+: dropEndWhile (· == '/') url.toList := ⟨host, hserver.symm⟩
    exact hhost.trans (prefix_dropEndWhile _ _)
  constructor
  · exact (isWebAddress_iff url).mpr ⟨scheme, hscheme, hprefix⟩
  · constructor
    · intro c hc
      rcases hprefix with ⟨rest, hrest⟩
      rw [← hrest, List.head?_append, (scheme_chars scheme hscheme).2.1] at hc
      cases hc
      rfl
    · intro c hc
      by_cases hslash : c = '/'
      · rw [hslash]
        rfl
      · have hwhole : dropEndWhile (· == '/') url.toList = url.toList := by
          apply dropEndWhile_eq_self
          intro x hx
          cases hc.symm.trans hx
          exact beq_eq_false_iff_ne.mpr hslash
        rw [← hwhole, hlast] at hc
        cases hc
        exact hblank

/-!
## Loading
-/

theorem isWebAddress_of_validate {c : Config} (h : c.validate = .ok ()) :
    isWebAddress (trim c.server.url) = true := by
  unfold validate at h
  split at h
  · rename_i hnone
    unfold complaint? at hnone
    cases haddress : isWebAddress (trim c.server.url) with
    | true => rfl
    | false =>
        simp only [haddress] at hnone
        split at hnone <;> cases hnone
  · cases h

theorem cleanAddress_iff_trimmed {url : String} (h : isWebAddress (trim url) = true) :
    CleanAddress url <-> trim url = url := by
  constructor
  · intro hclean
    exact (trim_eq_self_iff url).mpr hclean.unpadded
  · intro htrim
    rw [htrim] at h
    exact ⟨h, (trim_eq_self_iff url).mp htrim⟩

/--
The address that is loaded has a scheme once the blanks around it are taken off, and has it as it
is kept just if there are no such blanks, as there never are if it comes from the variable.
Measures can be asked for, whatever the project and the metrics, just if a host is named.
-/
theorem load_address_usable_iff [Wording] {files : Workspace}
    {environment : String -> Option String} {root : String} {c : Config}
    (hload : load files environment root = .ok c) :
    CleanAddress (trim c.server.url) ∧
    (CleanAddress c.server.url <-> trim c.server.url = c.server.url) ∧
    (forall text, environment urlVariable = some text -> isBlankText text = false ->
      CleanAddress c.server.url) ∧
    (forall project metrics, Usable c.server.url project metrics <-> NamesHost c.server.url) ∧
    (NamesHost c.server.url -> CleanAddress c.server.url) := by
  rcases exists_of_bind_eq_ok hload with ⟨configured, _hconfigured, hload⟩
  rcases exists_of_bind_eq_ok hload with ⟨_, hvalid, hload⟩
  cases hload
  have haddress := isWebAddress_of_validate hvalid
  have hiff := cleanAddress_iff_trimmed haddress
  refine ⟨⟨haddress, ?_⟩, hiff, ?_, ?_, cleanAddress_of_namesHost⟩
  · rw [toList_trim]
    exact unpadded_trimChars _
  · intro text htext hblank
    apply hiff.mpr
    rw [htext, withUrl, hblank]
    exact trim_trim text
  · intro project metrics
    constructor
    · exact namesHost_of_usable
    · intro hhost
      exact usable_of_namesHost hhost project metrics

def repositoryAlone (text : String) : Workspace :=
  (Workspace.empty.writeWithin repositoryFile (encode text)).toOption.getD .empty

attribute [local instance] Wording.sample

theorem load_of_variable_usable :
    exists c, load (repositoryAlone "[server]\nurl = \" http://h \"\n")
        (fun name => if name = urlVariable then some " https://v/ " else none) "." = .ok c ∧
      CleanAddress c.server.url ∧
      forall project metrics, Usable c.server.url project metrics := by
  have hload : load (repositoryAlone "[server]\nurl = \" http://h \"\n")
      (fun name => if name = urlVariable then some " https://v/ " else none) "." =
        .ok ⟨⟨"https://v/", "admin", "admin", 10⟩, ⟨1000, none, none⟩, "testdata"⟩ := by
    decide +kernel
  rcases load_address_usable_iff hload with
    ⟨_htrimmed, _hiff, hvariable, husable, _hclean⟩
  refine ⟨_, hload, hvariable " https://v/ " rfl (by decide), ?_⟩
  intro project metrics
  apply (husable project metrics).mpr
  exact ⟨"https://", ['v'], 'v', by decide, by decide, by decide, by decide⟩

/--
Addresses that are accepted and not usable: one that is kept with the blanks around it, one that is
nothing but a scheme, and one with a blank before the slash at its end.
-/
theorem load_accepts_unusable_addresses :
    (exists c, load (repositoryAlone "[server]\nurl = \" http://h \"\n") (fun _ => none) "." =
        .ok c ∧ c.server.url = " http://h " ∧ ¬CleanAddress c.server.url ∧
      measuresUrl c.server.url "p" ["m"] = " http://h /api/resources?resource=p&metrics=m") ∧
    (exists c, load (repositoryAlone "[server]\nurl = \"http://\"\n") (fun _ => none) "." =
        .ok c ∧ isWebAddress (measuresUrl c.server.url "p" ["m"]) = false ∧
      measuresUrl c.server.url "p" ["m"] = "http:/api/resources?resource=p&metrics=m") ∧
    (exists c, load (repositoryAlone "[server]\nurl = \"http://h /\"\n") (fun _ => none) "." =
        .ok c ∧ ¬Usable c.server.url "p" ["m"] ∧
      measuresUrl c.server.url "p" ["m"] = "http://h /api/resources?resource=p&metrics=m") := by
  have hpadded : load (repositoryAlone "[server]\nurl = \" http://h \"\n") (fun _ => none) "." =
      .ok ⟨⟨" http://h ", "admin", "admin", 10⟩, ⟨1000, none, none⟩, "testdata"⟩ := by
    decide +kernel
  have hbare : load (repositoryAlone "[server]\nurl = \"http://\"\n") (fun _ => none) "." =
      .ok ⟨⟨"http://", "admin", "admin", 10⟩, ⟨1000, none, none⟩, "testdata"⟩ := by
    decide +kernel
  have hslash : load (repositoryAlone "[server]\nurl = \"http://h /\"\n") (fun _ => none) "." =
      .ok ⟨⟨"http://h /", "admin", "admin", 10⟩, ⟨1000, none, none⟩, "testdata"⟩ := by
    decide +kernel
  refine ⟨⟨_, hpadded, rfl, ?_, by decide⟩, ⟨_, hbare, by decide, by decide⟩,
    ⟨_, hslash, ?_, by decide⟩⟩
  · intro hclean
    cases hclean.unpadded.first ' ' rfl
  · intro husable
    rcases (namesHost_of_usable husable).exists_last with ⟨last, hlast, hblank⟩
    cases hlast
    cases hblank

end Config
end AnalysisHarness
