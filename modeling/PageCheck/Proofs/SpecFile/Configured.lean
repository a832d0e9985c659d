import PageCheck.Engine
import PageCheck.Proofs.Config.Build
import PageCheck.Proofs.Files.Store
import PageCheck.Proofs.SpecFile.Load

/-!
# The specification file of a configuration

A configuration is valid only if the path in it leads to a file as it is written. Before the file is
read a leading tilde is replaced, so what is read is that file unless the path starts with a tilde.
Then it may be another file, or a missing one, or no file at all. The files are those below the current
folder, with texts of whole characters as names, and the home folders of users are given.
-/

namespace PageCheck

set_option autoImplicit false

variable {files : Files} {members : Config.Members} {c : Config} {p : Path}

/-! Validated paths -/

theorem Config.isFile_of_build (hBuilt : build files members = .ok c) (hGiven : c.specFile = some p) :
    files.isFile p = true := by
  have hMissing := (of_build_eq_ok hBuilt).2
  have hDraft : c.draft.specFile = some (.path p) := congrArg (Option.map Given.path) hGiven
  rw [missingFile?, hDraft, Option.bind_some] at hMissing
  split at hMissing
  · assumption
  · cases hMissing

/-! Replaced tildes -/

namespace Path

variable (homes : Homes) {user : String} {rest : List String}

theorem expand?_of_not_startsAtHome (h : p.startsAtHome = false) : p.expand? homes = some p := by
  rw [expand?, h, if_neg Bool.false_ne_true]

/-- The first name of such a path is a tilde and the name of a user, who is oneself if there is none. -/
theorem exists_user_of_startsAtHome (h : p.startsAtHome = true) :
    ∃ user rest, p.names = ("~" ++ user) :: rest := by
  rw [startsAtHome, Bool.and_eq_true] at h
  cases hNames : p.names with
  | nil =>
    rw [hNames] at h
    cases h.2
  | cons name rest =>
    rw [hNames, List.head?_cons, Option.any_some, String.startsWith_string_iff] at h
    obtain ⟨user, hUser⟩ := h.2
    refine ⟨String.ofList user, rest, congrArg (· :: rest) (String.toList_inj.mp ?_)⟩
    simpa [String.toList_append, String.toList_ofList] using hUser.symm

theorem expand?_of_user (hStarts : p.startsAtHome = true) (hNames : p.names = ("~" ++ user) :: rest) :
    p.expand? homes = (homes.of? user).map fun home => home.join rest := by
  have hUser : String.ofList (("~" ++ user).toList.drop 1) = user := by
    rw [String.toList_append]
    exact String.ofList_toList
  rw [expand?, hStarts, if_pos rfl, hNames]
  simp only [hUser]

end Path

/-! The file that is read -/

namespace Engine

/-- What is loaded is what the text in the file is read as, or a refusal if it holds no text. -/
def Reads (files : Files) (c : Config) (p : Path) : Prop :=
  ∃ octets, files.bytes p = .ok octets ∧
    (∀ s : String, octets = s.toUTF8.data.toList → loadSpecs files c none =
      ⟨(SpecFile.read c.depth s).value.mapError .file, (SpecFile.read c.depth s).records⟩) ∧
    ((∀ s : String, octets ≠ s.toUTF8.data.toList) →
      ∃ fault, loadSpecs files c none = ⟨.error (.file (.notText fault)), []⟩)

def Misses (files : Files) (c : Config) (p : Path) : Prop :=
  loadSpecs files c none =
    ⟨.error (.file (.missing p.text)), [⟨.error, "Spec file not found: " ++ p.text⟩]⟩

theorem loadSpecs_of_load (hGiven : c.specFile = some p)
    {found : Except SpecFile.LoadError (List SpecLine)} {records : List Log.Record}
    (hLoad : SpecFile.load files c.depth p = ⟨found, records⟩) :
    loadSpecs files c none = ⟨found.mapError .file, records⟩ := by
  rw [loadSpecs, source?, hGiven, Option.none_or]
  simp only [hLoad]
  exact congrArg (Logged.mk _) (List.append_nil records)

/-- Of a file that is there only its bytes can be refused, or the reports on its lines. -/
theorem Reads.ne_error (hReads : Reads files c p) {e : LoadError} (hOther : ∀ fault, e ≠ .file (.notText fault))
    (hReport : e ≠ .file .longNumber) (records : List Log.Record) : loadSpecs files c none ≠ ⟨.error e, records⟩ := by
  obtain ⟨octets, _, hText, hNone⟩ := hReads
  intro hError
  by_cases hSome : ∃ s : String, octets = s.toUTF8.data.toList
  · obtain ⟨s, hBytes⟩ := hSome
    have hValue := congrArg Logged.value ((hText s hBytes).symm.trans hError)
    cases hRead : (SpecFile.read c.depth s).value with
    | ok lines =>
      rw [hRead] at hValue
      cases hValue
    | error fault =>
      rw [hRead, SpecFile.eq_longNumber_of_read hRead] at hValue
      cases hValue
      exact hReport rfl
  · obtain ⟨fault, hFault⟩ := hNone (not_exists.mp hSome)
    cases hFault.symm.trans hError
    exact hOther fault rfl

variable {q : Path}

theorem reads_of_isFile (hGiven : c.specFile = some p) (hExpands : p.expand? files.home = some q)
    (hFile : files.isFile q = true) : Reads files c q := by
  obtain ⟨octets, hBytes⟩ := Files.exists_bytes_of_isFile hFile
  have hLoad := SpecFile.load_eq_readBytes c.depth hExpands hBytes
  refine ⟨octets, hBytes, ?_, fun hNone => ?_⟩
  · rintro s rfl
    exact loadSpecs_of_load hGiven (hLoad.trans (SpecFile.readBytes_utf8 c.depth s))
  · obtain ⟨fault, hFault⟩ := SpecFile.readBytes_fails c.depth hNone
    exact ⟨fault, loadSpecs_of_load hGiven (hLoad.trans hFault)⟩

theorem misses_of_not_isFile (hGiven : c.specFile = some p) (hExpands : p.expand? files.home = some q)
    (hNone : files.isFile q = false) : Misses files c q := by
  have hLoad : SpecFile.load files c.depth p = SpecFile.absent q := by
    rw [SpecFile.load, hExpands]
    cases hBytes : files.bytes q with
    | error fault => simp only [hBytes]
    | ok octets =>
      rw [Files.isFile_of_bytes hBytes] at hNone
      cases hNone
  exact loadSpecs_of_load hGiven hLoad

theorem loadSpecs_of_unknown_home (hGiven : c.specFile = some p) (hExpands : p.expand? files.home = none) :
    loadSpecs files c none = ⟨.error (.file .home), []⟩ := by
  have hLoad : SpecFile.load files c.depth p = ⟨.error .home, []⟩ := by
    rw [SpecFile.load, hExpands]
    rfl
  exact loadSpecs_of_load hGiven hLoad

/-- The file that was validated is the one that is read, unless its path starts with a tilde: then it
is looked for below the home of the user that the tilde names. Only what lies below the current folder
is ever there. -/
theorem loadSpecs_of_build (hBuilt : Config.build files members = .ok c) (hGiven : c.specFile = some p) :
    files.isFile p = true ∧ (p.startsAtHome = false → Reads files c p) ∧
      (p.startsAtHome = true → ∃ user rest, p.names = ("~" ++ user) :: rest ∧
        match files.home.of? user with
        | none => loadSpecs files c none = ⟨.error (.file .home), []⟩
        | some home =>
          if files.isFile (home.join rest) then Reads files c (home.join rest)
          else Misses files c (home.join rest)) := by
  refine ⟨Config.isFile_of_build hBuilt hGiven, fun hPlain => ?_, fun hStarts => ?_⟩
  · exact reads_of_isFile hGiven (Path.expand?_of_not_startsAtHome files.home hPlain)
      (Config.isFile_of_build hBuilt hGiven)
  · obtain ⟨user, rest, hNames⟩ := Path.exists_user_of_startsAtHome hStarts
    have hExpands := Path.expand?_of_user files.home hStarts hNames
    refine ⟨user, rest, hNames, ?_⟩
    cases hHome : files.home.of? user with
    | none => exact loadSpecs_of_unknown_home hGiven (hExpands.trans (by rw [hHome]; rfl))
    | some home =>
      rw [hHome, Option.map_some] at hExpands
      dsimp only
      split
      · exact reads_of_isFile hGiven hExpands ‹_›
      · exact misses_of_not_isFile hGiven hExpands (Bool.eq_false_iff.mpr ‹_›)

/-- One of two files of the same name lies in a folder that is called tilde, the other one at home. -/
theorem loadSpecs_of_build_tilde :
    let files : Files := ⟨⟨"/", ["work"]⟩, ⟨⟨"/", ["work", "home"]⟩, []⟩,
      [(["s"], .file "u".toUTF8.data.toList), (["home"], .folder), (["~"], .folder),
        (["home", "s"], .file "v\nw".toUTF8.data.toList), (["~", "s"], .file [])]⟩
    let plain : Config := { Config.standard with specFile := some ⟨"", ["s"]⟩ }
    let tilde : Config := { Config.standard with specFile := some ⟨"", ["~", "s"]⟩ }
    Config.build files [(.text "spec_file", .text "./s")] = .ok plain ∧
      Reads files plain ⟨"", ["s"]⟩ ∧
      Config.build files [(.text "spec_file", .text "~/s")] = .ok tilde ∧
      files.isFile ⟨"", ["~", "s"]⟩ = true ∧ Reads files tilde ⟨"/", ["work", "home", "s"]⟩ := by
  intro files plain tilde
  have hPlain : Config.build files [(.text "spec_file", .text "./s")] = .ok plain := by rfl
  have hTilde : Config.build files [(.text "spec_file", .text "~/s")] = .ok tilde := by rfl
  have hNot : (Path.mk "" ["s"]).startsAtHome = false := by decide +kernel
  obtain ⟨user, rest, hNames, hReads⟩ := (loadSpecs_of_build hTilde rfl).2.2 (by decide +kernel)
  have hUser : user = "" := by
    have hFirst : "~" ++ "" = "~" ++ user := (List.cons.inj hNames).1
    exact (String.append_right_inj "~").mp hFirst.symm
  cases hUser
  cases hNames
  have hHome : files.home.of? "" = some ⟨"/", ["work", "home"]⟩ := by decide +kernel
  rw [hHome] at hReads
  dsimp only at hReads
  rw [if_pos (by decide +kernel)] at hReads
  exact ⟨hPlain, (loadSpecs_of_build hPlain rfl).2.1 hNot, hTilde, (loadSpecs_of_build hTilde rfl).1, hReads⟩

/-- Three paths that lead to files as they are written: behind its tilde the first one names a user that
is not known and the second one a user with no such file, and no such file is at home for the third. -/
theorem not_reads_of_tilde :
    let files : Files := ⟨⟨"/", ["work"]⟩, ⟨⟨"/", ["home"]⟩, [("root", ⟨"/", ["root"]⟩)]⟩,
      [(["~sites"], .file "u".toUTF8.data.toList), (["~"], .folder), (["~", "s"], .file []),
        (["~root"], .folder), (["~root", "s"], .file [])]⟩
    let named : Config := { Config.standard with specFile := some ⟨"", ["~sites"]⟩ }
    let other : Config := { Config.standard with specFile := some ⟨"", ["~root", "s"]⟩ }
    let tilde : Config := { Config.standard with specFile := some ⟨"", ["~", "s"]⟩ }
    Config.build files [(.text "spec_file", .text "~sites")] = .ok named ∧
      loadSpecs files named none = ⟨.error (.file .home), []⟩ ∧ ¬ Reads files named ⟨"", ["~sites"]⟩ ∧
      Config.build files [(.text "spec_file", .text "~root/s")] = .ok other ∧
      Misses files other ⟨"/", ["root", "s"]⟩ ∧ ¬ Reads files other ⟨"", ["~root", "s"]⟩ ∧
      Config.build files [(.text "spec_file", .text "~/s")] = .ok tilde ∧
      Misses files tilde ⟨"/", ["home", "s"]⟩ ∧ ¬ Reads files tilde ⟨"", ["~", "s"]⟩ := by
  intro files named other tilde
  have hHome : loadSpecs files named none = ⟨.error (.file .home), []⟩ :=
    loadSpecs_of_unknown_home rfl (by decide +kernel)
  have hRoot : (Path.mk "" ["~root", "s"]).expand? files.home = some ⟨"/", ["root", "s"]⟩ := by
    decide +kernel
  have hOwn : (Path.mk "" ["~", "s"]).expand? files.home = some ⟨"/", ["home", "s"]⟩ := by
    decide +kernel
  have hOther : Misses files other ⟨"/", ["root", "s"]⟩ :=
    misses_of_not_isFile rfl hRoot (by decide +kernel)
  have hTilde : Misses files tilde ⟨"/", ["home", "s"]⟩ :=
    misses_of_not_isFile rfl hOwn (by decide +kernel)
  refine ⟨by rfl, hHome, fun hReads => ?_, by rfl, hOther, fun hReads => ?_, by rfl, hTilde,
    fun hReads => ?_⟩
  · exact hReads.ne_error (by simp) (by simp) _ hHome
  · exact hReads.ne_error (by simp) (by simp) _ hOther
  · exact hReads.ne_error (by simp) (by simp) _ hTilde

end Engine

end PageCheck
