import PageCheck.Log.Rotation
import PageCheck.Proofs.Files.Store

/-!
# What a log file holds

A line is written behind what its file holds, or alone if the file is put aside for it. That takes no
more than that there are no folders in the places for files that are put aside.
-/

namespace PageCheck.Files

set_option autoImplicit false

open Text (Codes)

variable {files more : Files} {p : Path} {a b x y : List String} {octets : List UInt8}

/-! The current folder -/

theorem current_move (files : Files) (a b : List String) : (files.move a b).current = files.current := by
  unfold move
  split <;> rfl

theorem current_putAside (files : Files) (x : List String) :
    (files.putAside x).current = files.current := by
  refine List.foldlRecOn (motive := fun more : Files => more.current = files.current) turns _ rfl ?_
  intro more hMore turn _
  exact (current_move _ _ _).trans hMore

theorem current_of_turn (h : files.turn? x = some more) : more.current = files.current := by
  unfold turn? at h
  split at h
  · cases h
  · cases h
    exact current_putAside files x

theorem current_of_ready {count : Nat} (h : files.ready? p count = some more) :
    more.current = files.current := by
  unfold ready? at h
  split at h
  · cases h
    rfl
  · split at h
    · split at h
      · cases h
        rfl
      · exact current_of_turn h
    · cases h
      rfl

theorem current_append (files : Files) (p : Path) (text : String) :
    (files.append p text).current = files.current := by
  unfold append
  repeat' split
  all_goals rfl

theorem current_addLine (files : Files) (p : Path) (line : Codes) :
    (files.addLine p line).current = files.current := by
  unfold addLine
  split
  · rfl
  · rename_i hReady
    split
    · exact (current_append _ _ _).trans (current_of_ready hReady)
    · exact current_of_ready hReady

/-! Moving files -/

theorem at?_remove_self (h : x ≠ []) : (files.remove x).at? x = none := by
  have hGone := find?_without_self (x := x) files.entries
  simp [at?, remove, h, hGone]

theorem at?_remove_of_ne (h : y ≠ x) : (files.remove x).at? y = files.at? y := by
  simp only [at?, remove, find?_without _ h]

/-- The second files have the folders of the first ones, and no others. -/
structure SameFolders (files more : Files) : Prop where
  keeps : KeepsFolders files more
  none_new : ∀ y, files.at? y ≠ some .folder → more.at? y ≠ some .folder

namespace SameFolders

theorem refl (files : Files) : SameFolders files files := ⟨⟨rfl, fun _ h => h⟩, fun _ h => h⟩

theorem trans {last : Files} (h : SameFolders files more) (hLast : SameFolders more last) :
    SameFolders files last where
  keeps := ⟨hLast.keeps.current.trans h.keeps.current,
    fun z hFolder => hLast.keeps.folders z (h.keeps.folders z hFolder)⟩
  none_new y hy := hLast.none_new y (h.none_new y hy)

/-- Only at one place there is something else, and no folder before or after. -/
theorem of_at (hCurrent : more.current = files.current) (hOthers : ∀ y, y ≠ x → more.at? y = files.at? y)
    (hBefore : files.at? x ≠ some .folder) (hAfter : more.at? x ≠ some .folder) :
    SameFolders files more where
  keeps := by
    refine ⟨hCurrent, fun z hFolder => ?_⟩
    have hNe : z ≠ x := fun hSame => hBefore (hSame ▸ hFolder)
    rw [hOthers z hNe, hFolder]
  none_new y hy := by
    by_cases hSame : y = x
    · exact hSame ▸ hAfter
    · rw [hOthers y hSame]
      exact hy

theorem put (h : files.at? x ≠ some .folder) : SameFolders files (files.put x (.file octets)) := by
  refine of_at rfl (fun _ => at?_put_of_ne) h ?_
  rw [at?_put_self (ne_nil_of_not_folder h)]
  exact nofun

theorem remove (h : files.at? x ≠ some .folder) : SameFolders files (files.remove x) := by
  refine of_at rfl (fun _ => at?_remove_of_ne) h ?_
  rw [at?_remove_self (ne_nil_of_not_folder h)]
  exact nofun

theorem move (hFrom : files.at? a ≠ some .folder) (hTo : files.at? b ≠ some .folder) :
    SameFolders files (files.move a b) := by
  unfold Files.move
  split
  · exact refl files
  · have hRemoved := remove hFrom
    exact hRemoved.trans (put (hRemoved.none_new b hTo))
  · rename_i hFolder
    exact absurd hFolder hFrom

theorem foldl_move {turns : List (String × String)}
    (h : ∀ turn ∈ turns, files.at? (aside x turn.1) ≠ some .folder ∧
      files.at? (aside x turn.2) ≠ some .folder) :
    SameFolders files
      (turns.foldl (fun files turn => files.move (aside x turn.1) (aside x turn.2)) files) := by
  induction turns generalizing files with
  | nil => exact refl files
  | cons turn turns ih =>
    obtain ⟨hFrom, hTo⟩ := h turn List.mem_cons_self
    have hFirst := move hFrom hTo
    refine hFirst.trans (ih fun next hNext => ?_)
    obtain ⟨hNextFrom, hNextTo⟩ := h next (List.mem_cons_of_mem turn hNext)
    exact ⟨hFirst.none_new _ hNextFrom, hFirst.none_new _ hNextTo⟩

end SameFolders

/-! Putting files aside -/

theorem aside_empty (h : x ≠ []) : aside x "" = x := by
  rw [aside, List.getLast?_eq_some_getLast h, Option.getD_some, String.append_empty,
    List.dropLast_concat_getLast h]

/-- A path leads to a log file with some bytes, and nothing that was put aside for it is a folder. -/
structure IsLogAt (files : Files) (p : Path) (octets : List UInt8) (x : List String) : Prop where
  place : files.place p = .ok x
  file : files.at? x = some (.file octets)
  asides : ∀ turn ∈ turns, files.at? (aside x turn.2) ≠ some .folder

def IsLog (files : Files) (p : Path) (octets : List UInt8) : Prop := ∃ x, IsLogAt files p octets x

/-- What a log file holds once a line has been written to it. -/
def continued (octets : List UInt8) (line : Codes) : List UInt8 :=
  (if octets.length + line.length < logSize then octets else []) ++
    match line.written with
    | .ok text => Text.encode text.toList
    | .error _ => []

theorem IsLogAt.not_folder (h : IsLogAt files p octets x) : files.at? x ≠ some .folder := by
  rw [h.file]
  exact nofun

theorem IsLogAt.turn (h : IsLogAt files p octets x) :
    ∃ more, files.turn? x = some more ∧ IsLogAt more p [] x := by
  have hHere : files.at? (aside x "") ≠ some .folder := by
    rw [aside_empty (ne_nil_of_not_folder h.not_folder)]
    exact h.not_folder
  have hFirst := h.asides ("", ".1") (by decide)
  have hSecond := h.asides (".1", ".2") (by decide)
  have hThird := h.asides (".2", ".3") (by decide)
  have hMoved : SameFolders files (files.putAside x) := by
    apply SameFolders.foldl_move
    simp only [turns, List.forall_mem_cons, List.not_mem_nil, false_implies, implies_true, and_true]
    exact ⟨⟨hSecond, hThird⟩, ⟨hFirst, hSecond⟩, hHere, hFirst⟩
  have hFree := hMoved.none_new x h.not_folder
  have hAll : SameFolders files ((files.putAside x).put x (.file [])) := hMoved.trans (.put hFree)
  refine ⟨(files.putAside x).put x (.file []), ?_, hAll.keeps.place_eq h.place,
    at?_put_self (ne_nil_of_not_folder hFree), fun turn hTurn => hAll.none_new _ (h.asides turn hTurn)⟩
  rw [turn?, if_neg]
  simp [hThird]

theorem IsLogAt.ready (h : IsLogAt files p octets x) (count : Nat) :
    ∃ more, files.ready? p count = some more ∧
      IsLogAt more p (if octets.length + count < logSize then octets else []) x := by
  simp only [ready?, h.place, h.file]
  split
  · exact ⟨files, rfl, h⟩
  · exact h.turn

theorem IsLogAt.append (h : IsLogAt files p octets x) (text : String) :
    IsLogAt (files.append p text) p (octets ++ Text.encode text.toList) x := by
  have hSame : SameFolders files (files.put x (.file (octets ++ Text.encode text.toList))) :=
    .put h.not_folder
  simp only [Files.append, h.place, h.file]
  exact ⟨hSame.keeps.place_eq h.place, at?_put_self (ne_nil_of_not_folder h.not_folder),
    fun turn hTurn => hSame.none_new _ (h.asides turn hTurn)⟩

/-- One line is written to a log file. -/
theorem IsLog.addLine (h : IsLog files p octets) (line : Codes) :
    IsLog (files.addLine p line) p (continued octets line) := by
  obtain ⟨x, hLog⟩ := h
  obtain ⟨more, hReady, hMore⟩ := hLog.ready line.length
  refine ⟨x, ?_⟩
  simp only [Files.addLine, hReady, continued]
  cases line.written with
  | ok text => exact hMore.append text
  | error fault =>
    dsimp only
    rw [List.append_nil]
    exact hMore

theorem IsLog.bytes (h : IsLog files p octets) : files.bytes p = .ok octets := by
  obtain ⟨x, hLog⟩ := h
  exact bytes_eq_ok_iff.mpr ⟨x, hLog.place, hLog.file⟩

end PageCheck.Files
