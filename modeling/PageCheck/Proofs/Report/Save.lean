import PageCheck.Proofs.Files.Store
import PageCheck.Proofs.Text.Utf8
import PageCheck.Report.Save

/-!
# Saved reports

A report that is saved stands in its file, byte by byte, and no other file is touched. Whether it
can be saved is up to the files and the path alone.
-/

namespace PageCheck

set_option autoImplicit false

variable {files made : Files} {p q : Path} {text : String} {found : List UInt8}

namespace Files

theorem save_of_create {more : Files}
    (h : files.create p text.toUTF8.data.toList = .ok more) : files.save p text = ⟨more, none⟩ := by
  rw [← Text.encode_eq] at h
  rw [save, writeText, h]
  rfl

theorem save_of_create_error {fault : FileFault}
    (h : files.create p text.toUTF8.data.toList = .error fault) :
    files.save p text = ⟨files, some (.file ⟨fault, p.text⟩)⟩ := by
  rw [← Text.encode_eq] at h
  rw [save, writeText, h]
  rfl

theorem bytes_of_save (h : (files.save p text).fault = none) :
    (files.save p text).files.bytes p = .ok text.toUTF8.data.toList := by
  cases hCreate : files.create p text.toUTF8.data.toList with
  | error fault =>
    rw [save_of_create_error hCreate] at h
    cases h
  | ok more =>
    rw [save_of_create hCreate]
    exact bytes_of_create hCreate

theorem fault_save_of_place {place : List String} (hPlace : files.place p = .ok place)
    (hFree : files.at? place ≠ some .folder) : (files.save p text).fault = none := by
  rw [save_of_create (create_eq_ok_iff.mpr ⟨place, hPlace, hFree, rfl⟩)]

theorem current_save : (files.save p text).files.current = files.current := by
  cases hCreate : files.create p text.toUTF8.data.toList with
  | error fault => rw [save_of_create_error hCreate]
  | ok more =>
    rw [save_of_create hCreate]
    obtain ⟨x, _, _, rfl⟩ := create_eq_ok_iff.mp hCreate
    rfl

theorem bytes_of_save_of_apart (hApart : Apart files.current q p) (hFound : files.bytes q = .ok found) :
    (files.save p text).files.bytes q = .ok found := by
  cases hCreate : files.create p text.toUTF8.data.toList with
  | error fault =>
    rw [save_of_create_error hCreate]
    exact hFound
  | ok more =>
    rw [save_of_create hCreate]
    exact bytes_of_create_of_apart hCreate hApart hFound

theorem create_fails_iff {a b : List UInt8} {fault : FileFault} :
    files.create p a = .error fault ↔ files.create p b = .error fault := by
  unfold create
  cases files.place p with
  | error other => exact Iff.rfl
  | ok x =>
    dsimp only [bind, Except.bind]
    split <;> simp

theorem fault_save (a b : String) : (files.save p a).fault = (files.save p b).fault := by
  cases hCreate : files.create p a.toUTF8.data.toList with
  | error fault =>
    rw [save_of_create_error hCreate, save_of_create_error (create_fails_iff.mp hCreate)]
  | ok more =>
    cases hOther : files.create p b.toUTF8.data.toList with
    | error fault =>
      rw [create_fails_iff.mp hOther] at hCreate
      cases hCreate
    | ok other => rw [save_of_create hCreate, save_of_create hOther]

end Files

namespace CheckReport

variable {r : CheckReport} {pretty : Bool} {folder : Option Path}

theorem saveJson_of_makeFolders (h : files.makeFolders p.parent = .ok made) :
    r.saveJson pretty p files = made.save p (r.json pretty) := by rw [saveJson, h]

theorem bytes_of_saveJson (h : (r.saveJson pretty p files).fault = none) :
    (r.saveJson pretty p files).files.bytes p = .ok (r.json pretty).toUTF8.data.toList := by
  cases hMade : files.makeFolders p.parent with
  | error e =>
    rw [saveJson, hMade] at h
    cases h
  | ok made =>
    rw [saveJson_of_makeFolders hMade] at h ⊢
    exact Files.bytes_of_save h

theorem current_saveJson : (r.saveJson pretty p files).files.current = files.current := by
  cases hMade : files.makeFolders p.parent with
  | error e => rw [saveJson, hMade]
  | ok made => rw [saveJson_of_makeFolders hMade, Files.current_save, (Files.within_makeFolders hMade).current]

theorem saveHtml_of_makeFolders {t : Template} (h : files.makeFolders p.parent = .ok made)
    (hTemplate : made.template folder = .ok t) :
    r.saveHtml folder p files = made.save p (t.render r) := by rw [saveHtml, h]; simp only [hTemplate]

theorem exists_template_of_saveHtml (h : (r.saveHtml folder p files).fault = none) :
    ∃ made t, files.makeFolders p.parent = .ok made ∧ made.template folder = .ok t ∧
      (r.saveHtml folder p files).files.bytes p = .ok (t.render r).toUTF8.data.toList := by
  cases hMade : files.makeFolders p.parent with
  | error e =>
    rw [saveHtml, hMade] at h
    cases h
  | ok made =>
    cases hTemplate : made.template folder with
    | error fault =>
      rw [saveHtml, hMade] at h
      simp only [hTemplate] at h
      cases h
    | ok t =>
      refine ⟨made, t, rfl, hTemplate, ?_⟩
      rw [saveHtml_of_makeFolders hMade hTemplate] at h ⊢
      exact Files.bytes_of_save h

theorem bytes_of_saveHtml_of_apart (hApart : Files.Apart files.current q p)
    (hFound : files.bytes q = .ok found) : (r.saveHtml folder p files).files.bytes q = .ok found := by
  cases hMade : files.makeFolders p.parent with
  | error e =>
    rw [saveHtml, hMade]
    exact hFound
  | ok made =>
    have hWithin := Files.within_makeFolders hMade
    cases hTemplate : made.template folder with
    | error fault =>
      rw [saveHtml, hMade]
      simp only [hTemplate]
      exact hWithin.bytes_eq hFound
    | ok t =>
      rw [saveHtml_of_makeFolders hMade hTemplate]
      exact Files.bytes_of_save_of_apart (hWithin.current ▸ hApart) (hWithin.bytes_eq hFound)

theorem fault_saveHtml (r other : CheckReport) :
    (r.saveHtml folder p files).fault = (other.saveHtml folder p files).fault := by
  cases hMade : files.makeFolders p.parent with
  | error e => rw [saveHtml, saveHtml, hMade]
  | ok made =>
    cases hTemplate : made.template folder with
    | error fault =>
      rw [saveHtml, saveHtml, hMade]
      simp only [hTemplate]
    | ok t =>
      rw [saveHtml_of_makeFolders hMade hTemplate, saveHtml_of_makeFolders hMade hTemplate]
      exact Files.fault_save _ _

end CheckReport

end PageCheck
