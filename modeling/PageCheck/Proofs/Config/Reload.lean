import PageCheck.Config.Load
import PageCheck.Proofs.Cli.Action
import PageCheck.Proofs.Config.Build
import PageCheck.Proofs.Files.Path
import PageCheck.Proofs.Json.Controls
import PageCheck.Proofs.Text.Lines

/-!
# Printed configurations

A configuration that was validated is printed as a JSON text, and a file with that text is loaded as
the same configuration, unless the timeout is infinite: JSON has no such number, so it is printed as
no number at all, and only the timeout is refused then. The files are those below the current folder,
with texts of whole characters as names.
-/

namespace PageCheck

set_option autoImplicit false

open Json (ReadsBack keyed)

namespace Config

variable {files : Files} {members : Members} {c : Config} {p : Path}

/-! What validation lets through -/

theorem fields_of_build (h : build files members = .ok c) : fields members = .ok c.draft :=
  (of_build_eq_ok h).1

theorem normal_of_fields (h : fields members = .ok c.draft) (hGiven : c.specFile = some p) : p.Normal := by
  have hDraft : c.draft.specFile = some (.path p) := congrArg (Option.map Given.path) hGiven
  refine field_elim (fun given => ∀ q, given = some (.path q) → q.Normal) (fields_eq_ok_iff.mp h).1
    nofun (fun v given hRead q hSome => ?_) p hDraft
  subst hSome
  cases v with
  | text s =>
    cases hRead
    exact Path.normal_ofText s
  | _ => cases hRead

/-- The timeouts that are valid are the positive finite numbers and infinity. -/
theorem timeout_cases (h : Sound c) : (∃ m e, c.timeout = .finite false m e) ∨ c.timeout = .infinite false := by
  have hPositive := h.timeout_pos
  rw [← Binary64.isPositive_eq] at hPositive
  cases hTimeout : c.timeout with
  | nan => exact absurd hTimeout h.timeout_ne_nan
  | infinite negative =>
    rw [hTimeout] at hPositive
    cases negative with
    | true => cases hPositive
    | false => exact Or.inr rfl
  | finite negative m e =>
    rw [hTimeout] at hPositive
    cases negative with
    | true => cases hPositive
    | false => exact Or.inl ⟨m, e, rfl⟩

/-! The printed text -/

/-- What a timeout is printed as: infinity is no number in JSON. -/
def printedTimeout (x : Binary64) : Value := if x.isFinite then .real x else .null

def printedEntries (c : Config) : List (String × Value) :=
  [("spec_file", (c.specFile.map fun p => Value.text p.text).getD .null),
    ("timeout", printedTimeout c.timeout), ("user_agent", .text c.userAgent),
    ("max_nesting_depth", .int c.depth)]

theorem nodup_printedEntries (c : Config) : (c.printedEntries.map (·.1)).Nodup := by
  have hKeys : c.printedEntries.map (·.1) = keys := rfl
  rw [hKeys]
  decide

theorem write_printedTimeout (indent : Json.Indent) (x : Binary64) :
    Json.write indent (printedTimeout x) = Json.write indent (.real x) := by
  cases x with
  | nan => rfl
  | infinite negative => cases negative <;> rfl
  | finite negative m e => rfl

theorem toList_print (c : Config) : c.print.toList = Json.write (some 0) (.map (keyed c.printedEntries)) := by
  rw [print, Json.pretty, String.toList_ofList]
  simp only [toValue, keyed, printedEntries, List.map_cons, List.map_nil, Json.write, Json.writeMembers,
    write_printedTimeout]

theorem readsBack_printed (hSound : Sound c) (hSize : c.depth.natAbs < Nat.pow 10 Text.digitLimit)
    (hNumber : c.timeout.isFinite = true →
      Json.read (Layout.printed.write c.timeout).toList = .ok (.real c.timeout)) :
    ReadsBack (.map (keyed c.printedEntries)) := by
  refine Json.readsBack_map (nodup_printedEntries c) ?_
  simp only [printedEntries, List.mem_cons, List.not_mem_nil, or_false]
  rintro entry (rfl | rfl | rfl | rfl)
  · cases c.specFile with
    | none => exact Json.readsBack_null
    | some p => exact Json.readsBack_text p.text
  · rcases timeout_cases hSound with ⟨m, e, hFinite⟩ | hInfinite
    · rw [hFinite] at hNumber ⊢
      exact Json.readsBack_real (hNumber rfl)
    · rw [hInfinite]
      exact Json.readsBack_null
  · exact Json.readsBack_text c.userAgent
  · exact Json.readsBack_int hSize

theorem notMem_print {ch : Char} (h : Json.isShown ch = false) (c : Config) : ch ∉ c.print.toList := by
  intro hMem
  rw [toList_print] at hMem
  rw [Json.shown_write _ _ ch hMem] at h
  cases h

/-! Reading the file -/

variable {later : Files} {file : Path} {ending : String}

/-- The text of the file, as it is decoded: its line ends may be other ones than in the file. -/
theorem textOf_print (c : Config) (ending : String) :
    Files.textOf (Text.encode (c.print ++ ending).toList) =
      .ok (String.ofList (c.print.toList ++ Text.unifyLineEnds ending.toList)) := by
  rw [Files.textOf, Text.decode_encode, Except.map, String.toList_append,
    Text.unifyLineEnds_append (notMem_print rfl c)]

theorem load_of_source {given : Option Path} (hSource : source files given = .ok (some p)) :
    load files given = loadFile files p := by
  simp only [load, hSource, bind, Except.bind]

theorem loadFile_of_value {language : Language} {v : Value} {octets : List UInt8} {text : String}
    (hLanguage : Language.ofSuffix? (String.ofList (Text.lower p.suffix.toList)) = some language)
    (hBytes : files.bytes p = .ok octets) (hText : Files.textOf octets = .ok text)
    (hValue : value language p.text text = .ok v) :
    loadFile files p =
      Config.members language v >>= fun entries => (build files entries).mapError .build := by
  have hOctets : (files.bytes p).mapError (fun fault => LoadError.missing ⟨fault, p.text⟩) = .ok octets :=
    Files.mapError_eq_ok_iff.mpr hBytes
  have hDecoded : (Files.textOf octets).mapError LoadError.notText = .ok text :=
    Files.mapError_eq_ok_iff.mpr hText
  unfold loadFile
  simp only [hLanguage, hOctets, hDecoded, hValue, bind, Except.bind]

theorem load_eq_loadFile {q : Path} {octets : List UInt8} (hHome : p.expand? later.home = some q)
    (hBytes : later.bytes (q.resolve later.current) = .ok octets) :
    load later (some p) = loadFile later (q.resolve later.current) := by
  have hSource : source later (some p) = .ok (some (q.resolve later.current)) := by
    rw [source, hHome]
    exact if_pos (Files.isFile_of_bytes hBytes)
  exact load_of_source hSource

theorem loadFile_printed (hSound : Sound c) (hSize : c.depth.natAbs < Nat.pow 10 Text.digitLimit)
    (hNumber : c.timeout.isFinite = true →
      Json.read (Layout.printed.write c.timeout).toList = .ok (.real c.timeout))
    (hSuffix : String.ofList (Text.lower file.suffix.toList) = ".json")
    (hBytes : later.bytes file = .ok (Text.encode (c.print ++ ending).toList))
    (hEnding : ∀ ch ∈ ending.toList, Json.isSpace ch = true) :
    loadFile later file = (build later (keyed c.printedEntries)).mapError .build := by
  have hRead : Json.read (c.print.toList ++ Text.unifyLineEnds ending.toList) =
      .ok (.map (keyed c.printedEntries)) := by
    rw [toList_print]
    exact Json.read_append_of_readsBack (readsBack_printed hSound hSize hNumber) (some 0)
      (Text.forall_mem_unifyLineEnds (by decide) hEnding)
  have hValue : value .json file.text (String.ofList (c.print.toList ++ Text.unifyLineEnds ending.toList)) =
      .ok (.map (keyed c.printedEntries)) := by
    rw [value, String.toList_ofList, hRead]
    rfl
  have hLanguage : Language.ofSuffix? (String.ofList (Text.lower file.suffix.toList)) = some .json := by
    rw [hSuffix]
    rfl
  exact loadFile_of_value hLanguage hBytes (textOf_print c ending) hValue

/-! The printed members -/

theorem readPath_printed (h : fields members = .ok c.draft) :
    readPath ((c.specFile.map fun p => Value.text p.text).getD .null) = .ok (c.specFile.map .path) := by
  cases hGiven : c.specFile with
  | none => rfl
  | some p =>
    have hPath : Path.ofText p.text = p := Path.ofText_text (normal_of_fields h hGiven)
    exact congrArg (fun q => Except.ok (some (Given.path q))) hPath

theorem readTimeout_printed (hSound : Sound c) : readTimeout (printedTimeout c.timeout) =
    if c.timeout.isFinite then .ok c.timeout else .error .notNumber := by
  have hPositive := hSound.timeout_pos
  rw [← Binary64.isPositive_eq] at hPositive
  rcases timeout_cases hSound with ⟨m, e, hFinite⟩ | hInfinite
  · rw [hFinite] at hPositive ⊢
    exact if_pos hPositive
  · rw [hInfinite]
    rfl

theorem readText_of_ne {s : String} (h : s ≠ "") : readText (.text s) = .ok s := by
  have hSome : s.isEmpty = false := by
    rw [Bool.eq_false_iff, ne_eq, String.isEmpty_iff]
    exact h
  exact if_neg (Bool.eq_false_iff.mp hSome)

theorem readDepth_of_le {n : Int} (h : 1 ≤ n) : readDepth (.int n) = .ok n := if_pos h

theorem specFileField_printed (h : fields members = .ok c.draft) :
    specFileField (keyed c.printedEntries) = .ok c.draft.specFile := by
  rw [specFileField, field_of_mem (nodup_printedEntries c) (.head _), readPath_printed h]
  rfl

theorem timeoutField_printed (hSound : Sound c) : timeoutField (keyed c.printedEntries) =
    if c.timeout.isFinite then .ok c.timeout else .error ⟨some "timeout", .notNumber⟩ := by
  rw [timeoutField, field_of_mem (nodup_printedEntries c) (.tail _ (.head _)), readTimeout_printed hSound]
  cases c.timeout.isFinite <;> rfl

theorem userAgentField_printed (hSound : Sound c) :
    userAgentField (keyed c.printedEntries) = .ok c.userAgent := by
  rw [userAgentField, field_of_mem (nodup_printedEntries c) (.tail _ (.tail _ (.head _))),
    readText_of_ne hSound.userAgent_ne]
  rfl

theorem depthField_printed (hSound : Sound c) : depthField (keyed c.printedEntries) = .ok c.depth := by
  rw [depthField, field_of_mem (nodup_printedEntries c) (.tail _ (.tail _ (.tail _ (.head _)))),
    readDepth_of_le hSound.one_le_depth]
  rfl

theorem build_printed (h : fields members = .ok c.draft) (hThere : ∀ s ∈ c.specFile, later.isFile s = true) :
    build later (keyed c.printedEntries) =
      if c.timeout.isFinite then .ok c else .error (.problems [⟨some "timeout", .notNumber⟩]) := by
  have hSound := sound_of_draft h
  have hSpecFile := specFileField_printed h
  have hTimeout := timeoutField_printed hSound
  have hUserAgent := userAgentField_printed hSound
  have hDepth := depthField_printed hSound
  have hKnown : unknownKeys (keyed c.printedEntries) = [] := rfl
  have hProblems : problems (keyed c.printedEntries) =
      if c.timeout.isFinite then [] else [⟨some "timeout", .notNumber⟩] := by
    rw [problems, hSpecFile, hTimeout, hUserAgent, hDepth, hKnown]
    cases c.timeout.isFinite <;> rfl
  rw [build_keyed, hProblems]
  cases hFinite : c.timeout.isFinite with
  | false => rfl
  | true =>
    rw [hFinite, if_pos rfl] at hTimeout
    have hMissing : missingFile? later c.draft = none := by
      rw [missingFile?, Option.bind_eq_none_iff]
      intro given hGiven
      obtain ⟨s, hPath, rfl⟩ := Option.map_eq_some_iff.mp hGiven
      exact if_pos (hThere s hPath)
    rw [fields_eq_ok_iff.mpr ⟨hSpecFile, hTimeout, hUserAgent, hDepth⟩]
    simp only [if_true, hMissing, config_draft]

theorem on_printConfig (c : Config) (t : Cli.Terminal) :
    (Cli.printConfig c).on t = (.ok 0, t.shown (c.print ++ "\n")) := by
  have hPlain : Cli.echoed [c.print] = c.print ++ "\n" := by
    rw [Cli.echoed, List.map_cons, List.map_nil, String.join_cons, String.join_nil, String.append_empty,
      Text.plain, Cli.withoutControls_of_notMem (notMem_print rfl c), String.ofList_toList]
  rw [← hPlain, Cli.printConfig, Cli.Action.on_bind_ok (Cli.Action.on_echo c.print)]
  rfl

/-- The printed text of a configuration, saved in a file, is loaded as that configuration if its timeout
is finite; otherwise the timeout is refused and nothing else. The command that shows the configuration
shows just that text. -/
theorem load_printed {q : Path} (hBuilt : build files members = .ok c)
    (hSize : c.depth.natAbs < Nat.pow 10 Text.digitLimit)
    (hNumber : c.timeout.isFinite = true →
      Json.read (Layout.printed.write c.timeout).toList = .ok (.real c.timeout))
    (hHome : p.expand? later.home = some q)
    (hSuffix : String.ofList (Text.lower (q.resolve later.current).suffix.toList) = ".json")
    (hBytes : later.bytes (q.resolve later.current) = .ok (Text.encode (c.print ++ ending).toList))
    (hEnding : ∀ ch ∈ ending.toList, Json.isSpace ch = true)
    (hThere : ∀ s ∈ c.specFile, later.isFile s = true) :
    (load later (some p) = .ok c ↔ c.timeout.isFinite = true) ∧
      (c.timeout.isFinite = false →
        load later (some p) = .error (.build (.problems [⟨some "timeout", .notNumber⟩]))) ∧
      ∀ t : Cli.Terminal, (Cli.printConfig c).on t = (.ok 0, t.shown (c.print ++ "\n")) := by
  have hFields := fields_of_build hBuilt
  have hSound := sound_of_draft hFields
  have hLoad : load later (some p) = (build later (keyed c.printedEntries)).mapError .build :=
    (load_eq_loadFile hHome hBytes).trans
      (loadFile_printed hSound hSize hNumber hSuffix hBytes hEnding)
  rw [build_printed hFields hThere] at hLoad
  refine ⟨⟨fun hSame => ?_, fun hFinite => ?_⟩, fun hInfinite => ?_, on_printConfig c⟩
  · cases hFinite : c.timeout.isFinite with
    | true => rfl
    | false =>
      rw [hLoad, hFinite] at hSame
      cases hSame
  · rw [hLoad, hFinite]
    rfl
  · rw [hLoad, hInfinite]
    rfl

/-- Half a second is printed as such and read again; a time without end is refused. -/
theorem load_printed_half :
    let half := Binary64.ofDecimal false 5 (-1)
    let c : Config := ⟨some ⟨"", ["specs", "all.txt"]⟩, half, "Bot\t\"1\"", 3⟩
    let endless : Config := { c with timeout := .infinite false }
    let shop : Files := ⟨⟨"/", ["work"]⟩, ⟨⟨"/", ["home"]⟩, []⟩,
      [(["specs"], .folder), (["specs", "all.txt"], .file [])]⟩
    let saved (c : Config) : Files := { shop with entries := shop.entries ++
      [(["c.JSON"], .file (Text.encode (c.print ++ "\n").toList))] }
    load (saved c) (some (.ofText "./c.JSON")) = .ok c ∧
      load (saved endless) (some (.ofText "./c.JSON")) =
        .error (.build (.problems [⟨some "timeout", .notNumber⟩])) := by
  intro half c endless shop saved
  have hText : (Layout.printed.write half).toList = ['0', '.', '5'] := by decide +kernel
  have hNumber : Json.read (Layout.printed.write half).toList = .ok (.real half) := by
    rw [hText]
    exact Json.read_of_number rfl rfl
  have hBuilt : build shop [(.text "spec_file", .text "specs/./all.txt"), (.text "timeout", .text "0.5"),
      (.text "user_agent", .text c.userAgent), (.text "max_nesting_depth", .int 3)] = .ok c := rfl
  have hEndless : build shop [(.text "spec_file", .text "specs/./all.txt"), (.text "timeout", .text "inf"),
      (.text "user_agent", .text c.userAgent), (.text "max_nesting_depth", .int 3)] = .ok endless := rfl
  have hSize (n : Int) (hSmall : n.natAbs < 10) : n.natAbs < Nat.pow 10 Text.digitLimit :=
    Text.lt_pow_of_lt_ten hSmall
  have hExpands : (Path.ofText "./c.JSON").expand? shop.home = some ⟨"", ["c.JSON"]⟩ := by decide +kernel
  have hEnds : String.ofList (Text.lower
      (Path.resolve ⟨"", ["c.JSON"]⟩ shop.current).suffix.toList) = ".json" := by
    decide +kernel
  have hBelow : shop.below? (Path.resolve ⟨"", ["c.JSON"]⟩ shop.current) = some ["c.JSON"] := by
    decide +kernel
  have hHome (c : Config) : (Path.ofText "./c.JSON").expand? (saved c).home = some ⟨"", ["c.JSON"]⟩ := hExpands
  have hSuffix (c : Config) : String.ofList (Text.lower
      (Path.resolve ⟨"", ["c.JSON"]⟩ (saved c).current).suffix.toList) = ".json" := hEnds
  have hBytes (c : Config) : (saved c).bytes (Path.resolve ⟨"", ["c.JSON"]⟩ (saved c).current) =
      .ok (Text.encode (c.print ++ "\n").toList) := by
    have hSame : (saved c).below? = shop.below? := rfl
    refine Files.bytes_eq_ok_iff.mpr ⟨["c.JSON"], ?_, rfl⟩
    rw [Files.place, hSame, hBelow]
    rfl
  have hThere (c : Config) : ∀ s ∈ some (⟨"", ["specs", "all.txt"]⟩ : Path), (saved c).isFile s = true := by
    rintro s ⟨⟩
    rfl
  have hEnding : ∀ ch ∈ "\n".toList, Json.isSpace ch = true := by decide
  constructor
  · exact (load_printed hBuilt (hSize c.depth (by decide)) (fun _ => hNumber) (hHome c) (hSuffix c)
      (hBytes c) hEnding (hThere c)).1.mpr (by decide +kernel)
  · exact (load_printed hEndless (hSize endless.depth (by decide)) nofun (hHome endless) (hSuffix endless)
      (hBytes endless) hEnding (hThere endless)).2.1 rfl

end Config

end PageCheck
