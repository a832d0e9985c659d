import PageCheck.Files.Store

/-!
# What becomes of files

A file that is written holds the bytes it was given. Making folders and opening files takes nothing
away: whatever there was is still there, and paths that led to it still do.
-/

namespace PageCheck.Files

set_option autoImplicit false

variable {files more : Files} {p q : Path} {place x y : List String}

@[simp] theorem at?_nil : files.at? [] = some .folder := rfl

theorem find?_without_self (entries : List (List String × Entry)) :
    (entries.filter (·.1 != x)).find? (·.1 == x) = none := by
  rw [List.find?_eq_none]
  intro e hMem
  simpa using (List.mem_filter.mp hMem).2

theorem find?_without (entries : List (List String × Entry)) (h : y ≠ x) :
    (entries.filter (·.1 != x)).find? (·.1 == y) = entries.find? (·.1 == y) := by
  rw [List.find?_filter]
  congr 1
  funext e
  by_cases he : e.1 = y
  · simp [he, h]
  · simp [he]

theorem at?_put_self {entry : Entry} (h : x ≠ []) : (files.put x entry).at? x = some entry := by
  have hGone := find?_without_self (x := x) files.entries
  simp [at?, put, h, List.find?_append, hGone]

theorem at?_put_of_ne {entry : Entry} (h : y ≠ x) : (files.put x entry).at? y = files.at? y := by
  have hLast : [(x, entry)].find? (·.1 == y) = none := by simp [h.symm]
  simp only [at?, put, List.find?_append, hLast, find?_without _ h, Option.or_none]

/-- Following names asks for folders only. -/
theorem follow_of_folders {names : List String}
    (hFolders : ∀ z, files.at? z = some .folder → more.at? z = some .folder)
    (h : files.follow x names = .ok y) : more.follow x names = .ok y := by
  induction names generalizing x with
  | nil => exact h
  | cons name rest ih =>
    rw [follow] at h ⊢
    cases hHere : files.at? x with
    | none =>
      rw [hHere] at h
      cases h
    | some entry =>
      cases entry with
      | file octets =>
        rw [hHere] at h
        cases h
      | folder =>
        rw [hHere] at h
        rw [hFolders x hHere]
        dsimp only at h ⊢
        split at h
        · split at h
          · cases h
          · rename_i hUp hInside
            rw [if_pos hUp, if_neg hInside]
            exact ih h
        · rename_i hDown
          rw [if_neg hDown]
          exact ih h

/-- The second files have the folders of the first ones where these have them. -/
structure KeepsFolders (files more : Files) : Prop where
  current : more.current = files.current
  folders : ∀ z, files.at? z = some .folder → more.at? z = some .folder

theorem KeepsFolders.place_eq (h : KeepsFolders files more) (hPlace : files.place p = .ok x) :
    more.place p = .ok x := by
  have hBelow : more.below? p = files.below? p := by rw [below?, below?, h.current]
  rw [place] at hPlace ⊢
  rw [hBelow]
  cases hNames : files.below? p with
  | none =>
    rw [hNames] at hPlace
    cases hPlace
  | some names =>
    rw [hNames] at hPlace
    exact follow_of_folders h.folders hPlace

theorem keepsFolders_put {entry : Entry} (h : files.at? x ≠ some .folder) :
    KeepsFolders files (files.put x entry) where
  current := rfl
  folders z hFolder := by
    have hNe : z ≠ x := fun hSame => h (hSame ▸ hFolder)
    rw [at?_put_of_ne hNe, hFolder]

theorem ne_nil_of_not_folder (h : files.at? x ≠ some .folder) : x ≠ [] :=
  fun hNil => h (hNil ▸ at?_nil)

theorem bind_eq_ok_iff {ε α β : Type} {r : Except ε α} {f : α → Except ε β} {b : β} :
    (r >>= f) = .ok b ↔ ∃ a, r = .ok a ∧ f a = .ok b := by
  cases r <;> simp [bind, Except.bind]

theorem mapError_eq_ok_iff {ε ε' α : Type} {r : Except ε α} {f : ε → ε'} {a : α} :
    r.mapError f = .ok a ↔ r = .ok a := by
  cases r with
  | error e => exact ⟨nofun, nofun⟩
  | ok b => exact ⟨fun h => congrArg Except.ok (Except.ok.inj h), fun h => congrArg Except.ok (Except.ok.inj h)⟩

theorem bytes_eq_ok_iff {octets : List UInt8} :
    files.bytes p = .ok octets ↔ ∃ x, files.place p = .ok x ∧ files.at? x = some (.file octets) := by
  rw [bytes, bind_eq_ok_iff]
  refine exists_congr fun x => and_congr_right fun _ => ?_
  cases files.at? x with
  | none => simp
  | some entry => cases entry <;> simp

theorem isFile_of_bytes {octets : List UInt8} (h : files.bytes p = .ok octets) : files.isFile p = true := by
  obtain ⟨x, hPlace, hFile⟩ := bytes_eq_ok_iff.mp h
  have hEntry : files.entry? p = some (.file octets) := by
    simp only [ entry?, hPlace, hFile]
  rw [isFile, hEntry]

theorem exists_bytes_of_isFile (h : files.isFile p = true) : ∃ octets, files.bytes p = .ok octets := by
  unfold isFile entry? at h
  split at h
  · rename_i octets hEntry
    split at hEntry
    · rename_i x hPlace
      exact ⟨octets, bytes_eq_ok_iff.mpr ⟨x, hPlace, hEntry⟩⟩
    · cases hEntry
  · cases h

theorem create_eq_ok_iff {octets : List UInt8} :
    files.create p octets = .ok more ↔
      ∃ x, files.place p = .ok x ∧ files.at? x ≠ some .folder ∧ more = files.put x (.file octets) := by
  rw [create, bind_eq_ok_iff]
  refine exists_congr fun x => and_congr_right fun _ => ?_
  cases files.at? x with
  | none => simp [eq_comm]
  | some entry => cases entry <;> simp [eq_comm]

theorem makeFolder_eq_ok_iff :
    files.makeFolder p = .ok more ↔
      ∃ x, files.place p = .ok x ∧ files.at? x = none ∧ more = files.put x .folder := by
  rw [makeFolder, bind_eq_ok_iff]
  refine exists_congr fun x => and_congr_right fun _ => ?_
  cases files.at? x <;> simp [eq_comm]

theorem bytes_of_create {octets : List UInt8} (h : files.create p octets = .ok more) :
    more.bytes p = .ok octets := by
  obtain ⟨x, hPlace, hFree, rfl⟩ := create_eq_ok_iff.mp h
  exact bytes_eq_ok_iff.mpr ⟨x, (keepsFolders_put hFree).place_eq hPlace,
    at?_put_self (ne_nil_of_not_folder hFree)⟩

/-- Two paths that never lead to the same place, whatever files there are below a folder. -/
def Apart (current p q : Path) : Prop :=
  ∀ files : Files, files.current = current → ∀ x, files.place p = .ok x → files.place q ≠ .ok x

/-- A file that is written does not change what another path leads to. -/
theorem bytes_of_create_of_apart {octets found : List UInt8} (h : files.create p octets = .ok more)
    (hApart : Apart files.current q p) (hFound : files.bytes q = .ok found) :
    more.bytes q = .ok found := by
  obtain ⟨x, hPlace, hFree, rfl⟩ := create_eq_ok_iff.mp h
  obtain ⟨y, hOther, hFile⟩ := bytes_eq_ok_iff.mp hFound
  have hNe : y ≠ x := fun hSame => hApart files rfl y hOther (hSame ▸ hPlace)
  refine bytes_eq_ok_iff.mpr ⟨y, (keepsFolders_put hFree).place_eq hOther, ?_⟩
  rw [at?_put_of_ne hNe, hFile]

/-- Whatever the first files have, the second ones have it too. -/
structure Within (files more : Files) : Prop where
  current : more.current = files.current
  home : more.home = files.home
  entries : ∀ z entry, files.at? z = some entry → more.at? z = some entry

namespace Within

theorem refl (files : Files) : Within files files := ⟨rfl, rfl, fun _ _ h => h⟩

theorem trans {last : Files} (h : Within files more) (hLast : Within more last) : Within files last :=
  ⟨hLast.current.trans h.current, hLast.home.trans h.home,
    fun z entry hEntry => hLast.entries z entry (h.entries z entry hEntry)⟩

theorem keepsFolders (h : Within files more) : KeepsFolders files more :=
  ⟨h.current, fun z => h.entries z .folder⟩

theorem bytes_eq {octets : List UInt8} (h : Within files more) (hBytes : files.bytes p = .ok octets) :
    more.bytes p = .ok octets := by
  obtain ⟨x, hPlace, hFile⟩ := bytes_eq_ok_iff.mp hBytes
  exact bytes_eq_ok_iff.mpr ⟨x, h.keepsFolders.place_eq hPlace, h.entries x _ hFile⟩

theorem put {entry : Entry} (h : files.at? x = none) : Within files (files.put x entry) where
  current := rfl
  home := rfl
  entries z found hFound := by
    have hNe : z ≠ x := fun hSame => by
      rw [hSame, h] at hFound
      cases hFound
    rw [at?_put_of_ne hNe, hFound]

end Within

theorem within_makeFolder (h : files.makeFolder p = .ok more) : Within files more := by
  obtain ⟨x, _, hFree, rfl⟩ := makeFolder_eq_ok_iff.mp h
  exact .put hFree

/-- The induction is on the folders that are made on the way; each step makes one or finds it. -/
theorem within_makeFoldersAt {root : String} {names : List String}
    (h : files.makeFoldersAt root names = .ok more) : Within files more := by
  fun_induction makeFoldersAt files root names generalizing more with
  | case1 names p made =>
    rename_i hMade
    cases h
    exact within_makeFolder hMade
  | case4 names p hMissing hNames outer hOuter made hMade =>
    rename_i ih
    cases h
    exact (ih hOuter).trans (within_makeFolder hMade)
  | case5 names p hMissing hNames outer hOuter fault hFault hFolder =>
    rename_i ih
    cases h
    exact ih hOuter
  | case7 names p fault hOther hFault =>
    cases h
    exact .refl files
  | case2 | case3 | case6 | case8 => cases h

theorem within_makeFolders (h : files.makeFolders p = .ok more) : Within files more :=
  within_makeFoldersAt h

theorem within_openToAppend (h : files.openToAppend p = .ok more) : Within files more := by
  obtain ⟨x, _, hOpened⟩ := bind_eq_ok_iff.mp (mapError_eq_ok_iff.mp h)
  split at hOpened
  · cases hOpened
  · cases hOpened
    exact .refl files
  · cases hOpened
    exact .put ‹_›

end PageCheck.Files
