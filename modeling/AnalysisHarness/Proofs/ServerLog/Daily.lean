import AnalysisHarness.Proofs.Date
import AnalysisHarness.Proofs.ServerLog.Folder

/-!
# The logs of the days

The log of a day has the day in its name, so that no other day has the same log. Names of years with
four digits are in the order of the days, and so the logs of a server are shown from the oldest to
the newest.
-/

namespace AnalysisHarness
namespace ServerLog

open Text Workspace

/-!
## Names
-/

theorem toList_dailyName (d : Date) :
    (dailyName d).toList = "sonar-".toList ++ (d.stamp.toList ++ ".log".toList) := by
  rw [dailyName, String.toList_append, String.toList_append, List.append_assoc]

theorem no_slash_dailyName (d : Date) : '/' ∉ (dailyName d).toList := by
  rw [toList_dailyName, List.mem_append, List.mem_append]
  rintro (hmem | hmem | hmem)
  · exact absurd hmem (by decide)
  · exact Date.not_mem_stamp (by decide) (by decide) (by decide) d hmem
  · exact absurd hmem (by decide)

theorem eq_of_dailyName_eq {d e : Date} (hd : d.Valid) (he : e.Valid)
    (h : dailyName d = dailyName e) : d = e := by
  have hchars := congrArg String.toList h
  rw [toList_dailyName, toList_dailyName] at hchars
  have hstamp := List.append_cancel_right (List.append_cancel_left hchars)
  exact Date.eq_of_stamp_eq hd he (String.toList_inj.mp hstamp)

theorem encode_dailyName_lt_iff {d e : Date} (hd : d.InFourDigits) (he : e.InFourDigits) :
    encode (dailyName d) < encode (dailyName e) <-> d.Before e := by
  have hlength : d.stamp.toList.length = e.stamp.toList.length := by
    rw [hd.length_stamp, he.length_stamp]
  have hbeginning : ¬"sonar-".toList < "sonar-".toList := List.lt_irrefl _
  have hending : ¬".log".toList < ".log".toList := List.lt_irrefl _
  rw [encode_lt_encode_iff, String.lt_iff, toList_dailyName, toList_dailyName,
    append_lt_append_iff rfl, append_lt_append_iff hlength, Date.stamp_lt_iff hd he]
  simp only [hbeginning, hending, false_or, and_false, or_false, true_and]

-- a sign comes before the digits, so a year of five digits does not follow those of four
example : encode (dailyName ⟨10000, 1, 1⟩) < encode (dailyName ⟨9999, 12, 31⟩) := by decide

/-!
## Paths
-/

def leading (path : String) : List String :=
  (components path).filter fun name => name ≠ "" ∧ name ≠ "."

/-- Two spellings of one path, which may differ in slashes in a row and in single dots. -/
def SamePath (path other : String) : Prop :=
  Path.isAbsolute path = Path.isAbsolute other ∧ leading path = leading other

theorem dailyFile_eq (home : String) (d : Date) :
    dailyFile home d = entryPath (folder home) (dailyName d) :=
  join_folder home (no_slash_dailyName d)

theorem leading_dailyFile (home : String) (d : Date) :
    leading (dailyFile home d) = leading (folder home) ++ [dailyName d] := by
  have hlength : (dailyName d).toList.length = 6 + (d.stamp.toList.length + 4) := by
    rw [toList_dailyName, List.length_append, List.length_append]
    rfl
  have hlong : forall short : String, short.toList.length < 6 -> dailyName d ≠ short := by
    rintro short hshort rfl
    omega
  have hkept : decide (dailyName d ≠ "" ∧ dailyName d ≠ ".") = true :=
    decide_eq_true ⟨hlong "" (by decide), hlong "." (by decide)⟩
  rw [leading, dailyFile_eq, components_entryPath _ (no_slash_dailyName d), List.filter_append]
  exact congrArg (List.append (leading (folder home))) (List.filter_cons_of_pos hkept)

theorem samePath_dailyFile_iff (home : String) {d e : Date} (hd : d.Valid) (he : e.Valid) :
    SamePath (dailyFile home d) (dailyFile home e) <-> d = e := by
  constructor
  · rintro ⟨_habsolute, hleading⟩
    rw [leading_dailyFile, leading_dailyFile] at hleading
    exact eq_of_dailyName_eq hd he (List.singleton_inj.mp (List.append_cancel_left hleading))
  · rintro rfl
    exact ⟨rfl, rfl⟩

/-!
## Showing the logs
-/

def dailyLog (day : Date × Bytes) : String × Bytes := (dailyName day.1, day.2)

section Shown

variable {files : Workspace} {home : String}

/-- Of two logs of days, the one that is shown first is the older one. -/
theorem before_of_logs (files : Workspace) (home : String) :
    (logs files home).Pairwise fun log later =>
      forall d e : Date, d.InFourDigits -> e.InFourDigits ->
        log.1 = dailyName d -> later.1 = dailyName e -> d.Before e := by
  apply (ordered_logs files home).imp
  rintro log later hlt d e hd he hlog hlater
  rw [hlog, hlater] at hlt
  exact (encode_dailyName_lt_iff hd he).mp (encode_lt_encode hlt)

theorem ordered_map_dailyLog {days : List (Date × Bytes)}
    (hdigits : forall day, day ∈ days -> day.1.InFourDigits)
    (horder : days.Pairwise fun day later => day.1.Before later.1) :
    Keyed.Ordered (days.map dailyLog) := by
  apply List.pairwise_map.mpr
  apply horder.imp_of_mem
  intro day later hday hlater hbefore
  exact encode_lt_encode_iff.mp
    ((encode_dailyName_lt_iff (hdigits day hday) (hdigits later hlater)).mpr hbefore)

theorem logs_eq_of_days {days : List (Date × Bytes)}
    (hdigits : forall day, day ∈ days -> day.1.InFourDigits)
    (horder : days.Pairwise fun day later => day.1.Before later.1)
    (hlogs : forall name bytes,
      IsLog files home name bytes <-> (name, bytes) ∈ days.map dailyLog) :
    logs files home = days.map dailyLog := by
  apply Keyed.eq_of_mem_iff (ordered_logs files home) (ordered_map_dailyLog hdigits horder)
  rintro ⟨name, bytes⟩
  exact mem_logs_iff.trans (hlogs name bytes)

/-- A log that cannot be reached keeps all of them from being shown. -/
theorem accessible_of_dump {text : String} (h : dump files home = .ok text) :
    Accessible files home := by
  intro name bytes hlog
  rcases exists_of_bind_eq_ok h with ⟨sections, hsections, _htext⟩
  have hname : name ∈ logNames files home := by
    rw [logNames_eq]
    exact List.mem_map_of_mem (mem_logs_iff.mpr hlog)
  rcases exists_mem_of_forall₂_left (mapM_eq_ok_iff.mp hsections) hname with
    ⟨shown, _hmem, hshown⟩
  rcases exists_of_bind_eq_ok hshown with ⟨content, hread, _hcontent⟩
  rcases exists_of_bind_eq_ok hread with ⟨id, hfind, _hid⟩
  have hshort := (find_eq_ok_iff_route.mp hfind).1.short
  cases hlog with
  | mk hfolder hentry _hfile _hname _hstem =>
      have hfile := Entries.names _ (name, _) (Entries.mem_iff_find?.mpr hentry)
      rwa [join_folder home hfile.no_slash] at hshort

theorem dump_eq_ok_iff {text : String} :
    dump files home = .ok text <->
      Accessible files home ∧
        text = String.join ((logs files home).map fun log =>
          "\n--- " ++ log.1 ++ " ---\n" ++ decodeLenient log.2) := by
  constructor
  · intro h
    have haccess := accessible_of_dump h
    rw [dump_eq_ok haccess] at h
    exact ⟨haccess, (Except.ok.inj h).symm⟩
  · rintro ⟨haccess, rfl⟩
    exact dump_eq_ok haccess

end Shown

/--
The path of the log of a day says which day it is, whatever the year and however the path is
spelled. Where years have four digits, the names are byte by byte in the order of the days. So the
logs of days that a server has are shown from the oldest to the newest, whichever days these are and
whatever other logs there are. If there are no others, the logs shown are these in their order.
-/
theorem daily_logs_tell_and_order_days (home : String) :
    (forall d e : Date, d.Valid -> e.Valid ->
      (dailyFile home d = dailyFile home e <-> d = e) ∧
      (SamePath (dailyFile home d) (dailyFile home e) <-> d = e)) ∧
    (forall d e : Date, d.InFourDigits -> e.InFourDigits ->
      (encode (dailyName d) < encode (dailyName e) <-> d.Before e)) ∧
    forall files : Workspace,
      exists shown : List (String × Bytes),
        (forall name bytes, (name, bytes) ∈ shown <-> IsLog files home name bytes) ∧
        (shown.Pairwise fun log later =>
          forall d e : Date, d.InFourDigits -> e.InFourDigits ->
            log.1 = dailyName d -> later.1 = dailyName e -> d.Before e) ∧
        (forall days : List (Date × Bytes),
          (forall day, day ∈ days -> day.1.InFourDigits) ->
          days.Pairwise (fun day later => day.1.Before later.1) ->
          (forall name bytes,
            IsLog files home name bytes <-> (name, bytes) ∈ days.map dailyLog) ->
          shown = days.map dailyLog) ∧
        forall text,
          dump files home = .ok text <->
            Accessible files home ∧
              text = String.join (shown.map fun log =>
                "\n--- " ++ log.1 ++ " ---\n" ++ decodeLenient log.2) := by
  refine ⟨?_, ?_, ?_⟩
  · intro d e hd he
    have hsame := samePath_dailyFile_iff home hd he
    refine ⟨⟨?_, ?_⟩, hsame⟩
    · intro hpath
      exact hsame.mp ⟨congrArg Path.isAbsolute hpath, congrArg leading hpath⟩
    · rintro rfl
      rfl
  · intro d e
    exact encode_dailyName_lt_iff
  · intro files
    refine ⟨logs files home, ?_, before_of_logs files home, ?_, ?_⟩
    · intro name bytes
      exact mem_logs_iff
    · intro days
      exact logs_eq_of_days
    · intro text
      exact dump_eq_ok_iff

def turningDisk : Workspace where
  nodes := [
    .directory 0 (.mk [("home", 5)]),
    .file [97], .file [98], .file [99], .file [110],
    .directory 0 (.mk [("logs", 6)]),
    .directory 5 (.mk [("sonar-20160101.log", 3), ("notes.txt", 4), ("sonar-00000229.log", 1),
      ("sonar-20151231.log", 2)])]
  current := 0

def turningDays : List (Date × Bytes) :=
  [(⟨0, 2, 29⟩, [97]), (⟨2015, 12, 31⟩, [98]), (⟨2016, 1, 1⟩, [99])]

theorem daily_logs_of_turning_months :
    ¬SamePath (dailyFile "home" ⟨12016, 11, 1⟩) (dailyFile "home" ⟨12016, 1, 11⟩) ∧
    encode (dailyName ⟨2015, 12, 31⟩) < encode (dailyName ⟨2016, 1, 1⟩) ∧
    dump turningDisk "home" = .ok
      ("\n--- sonar-00000229.log ---\na" ++ "\n--- sonar-20151231.log ---\nb" ++
        "\n--- sonar-20160101.log ---\nc") := by
  have hlogs : logs turningDisk "home" = turningDays.map dailyLog := by decide +kernel
  have hdigits : forall day, day ∈ turningDays -> day.1.InFourDigits := by decide
  have hisLog : forall name bytes, IsLog turningDisk "home" name bytes <->
      (name, bytes) ∈ turningDays.map dailyLog := by
    intro name bytes
    rw [← mem_logs_iff, hlogs]
  have haccess : Accessible turningDisk "home" := by
    have hshort : forall log, log ∈ turningDays.map dailyLog ->
        (entryPath (folder "home") log.1).utf8ByteSize ≤ pathLimit := by decide +kernel
    exact fun name bytes hlog => hshort (name, bytes) ((hisLog name bytes).mp hlog)
  rcases daily_logs_tell_and_order_days "home" with ⟨htell, horder, hshow⟩
  rcases hshow turningDisk with ⟨shown, _hshown, _hbefore, hdays, hdump⟩
  refine ⟨?_, ?_, ?_⟩
  · rw [(htell ⟨12016, 11, 1⟩ ⟨12016, 1, 11⟩ (by decide) (by decide)).2]
    decide
  · exact (horder ⟨2015, 12, 31⟩ ⟨2016, 1, 1⟩ (by decide) (by decide)).mpr (by decide)
  · refine (hdump _).mpr ⟨haccess, ?_⟩
    rw [hdays turningDays hdigits (by decide) hisLog]
    decide +kernel

end ServerLog
end AnalysisHarness
