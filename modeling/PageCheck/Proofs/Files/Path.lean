import Mathlib.Data.List.Basic
import PageCheck.Files.Path
import PageCheck.Proofs.Text.Run
import PageCheck.Proofs.Text.Split

/-!
# Written paths

A path that is read from a text has names that say something, and one of three roots. Written out
and read again it is the same path, though the first text may have been another one.
-/

namespace PageCheck.Path

set_option autoImplicit false

variable {p : Path} {s t : List Char} {name : String} {names : List String}

/-- A name that can stand between two slashes and says something. -/
structure Says (name : String) : Prop where
  nonempty : name.toList ≠ []
  not_here : name.toList ≠ ['.']
  no_slash : '/' ∉ name.toList

structure Normal (p : Path) : Prop where
  root : p.root ∈ ["", "/", "//"]
  names : ∀ name ∈ p.names, Says name

theorem rootOf_mem (s : List Char) : rootOf s ∈ ["", "/", "//"] := by
  unfold rootOf
  split <;> decide

theorem says_of_mem_namesOf (h : name ∈ namesOf s) : Says name := by
  obtain ⟨piece, hPiece, hName⟩ := List.mem_filterMap.mp h
  split at hName
  · cases hName
  · rename_i hSays
    cases hName
    simp only [Bool.or_eq_true, List.isEmpty_iff, beq_iff_eq, not_or] at hSays
    refine ⟨?_, ?_, ?_⟩ <;> rw [String.toList_ofList]
    · exact hSays.1
    · exact hSays.2
    · exact Text.notMem_of_mem_splitAt hPiece

theorem normal_ofText (text : String) : (ofText text).Normal where
  root := rootOf_mem text.toList
  names _ h := says_of_mem_namesOf h

/-! Reading what is written -/

theorem namesOf_slash (s : List Char) : namesOf ('/' :: s) = namesOf s := by
  rw [namesOf, Text.splitAt, if_pos rfl, List.filterMap_cons]
  rfl

theorem namesOf_root {root : String} (h : root ∈ ["", "/", "//"]) (s : List Char) :
    namesOf (root.toList ++ s) = namesOf s := by
  simp only [List.mem_cons, List.not_mem_nil, or_false] at h
  rcases h with rfl | rfl | rfl
  · rfl
  · exact namesOf_slash s
  · exact (namesOf_slash ('/' :: s)).trans (namesOf_slash s)

theorem namesOf_joined (hNames : ∀ name ∈ names, Says name) (hSome : names ≠ []) :
    namesOf (joined names).toList = names := by
  have hPieces : Text.splitAt '/' (joined names).toList = names.map String.toList := by
    rw [Text.splitAt_eq_splitOn, joined, String.toList_intercalate]
    refine List.splitOn_intercalate '/' (fun piece hPiece => ?_) (by simpa using hSome)
    obtain ⟨name, hMem, rfl⟩ := List.mem_map.mp hPiece
    exact (hNames name hMem).no_slash
  rw [namesOf, hPieces, List.filterMap_map]
  refine (List.filterMap_congr fun name hMem => ?_).trans List.filterMap_some
  have hSays := hNames name hMem
  simp [hSays.nonempty, hSays.not_here]

theorem rootOf_append {root : String} (h : root ∈ ["", "/", "//"]) (hStart : ∀ c ∈ s.head?, c ≠ '/') :
    rootOf (root.toList ++ s) = root := by
  have hSlashes : (root.toList ++ s).takeWhile (· == '/') = root.toList := by
    refine Text.takeWhile_run ?_ fun c hHead => beq_eq_false_iff_ne.mpr (hStart c hHead)
    simp only [List.mem_cons, List.not_mem_nil, or_false] at h
    rcases h with rfl | rfl | rfl <;> decide
  rw [rootOf, hSlashes]
  simp only [List.mem_cons, List.not_mem_nil, or_false] at h
  rcases h with rfl | rfl | rfl <;> rfl

theorem head?_joined (hNames : ∀ name ∈ names, Says name) : ∀ c ∈ (joined names).toList.head?, c ≠ '/' := by
  cases names with
  | nil => rintro c ⟨⟩
  | cons name more =>
    have hSays := hNames name List.mem_cons_self
    obtain ⟨c, rest, hName⟩ := List.exists_cons_of_ne_nil hSays.nonempty
    have hText : (joined (name :: more)).toList.head? = some c := by
      rw [joined, String.toList_intercalate, List.map_cons, hName]
      cases more <;> simp [List.intercalate]
    rw [hText]
    rintro d ⟨⟩ rfl
    exact hSays.no_slash (hName ▸ List.mem_cons_self)

/-- A path that is written out is read as that path. -/
theorem ofText_text (h : p.Normal) : ofText p.text = p := by
  obtain ⟨root, names⟩ := p
  obtain ⟨hRoot, hNames⟩ := h
  by_cases hSome : names = []
  · subst hSome
    simp only [List.mem_cons, List.not_mem_nil, or_false] at hRoot
    rcases hRoot with rfl | rfl | rfl <;> decide
  · have hText : text ⟨root, names⟩ = root ++ joined names := by
      have hFilled : names.isEmpty = false := List.isEmpty_eq_false_iff.mpr hSome
      have hJoins : (isRelative ⟨root, names⟩ || root.endsWith "/") = true := by
        simp only [List.mem_cons, List.not_mem_nil, or_false] at hRoot
        rcases hRoot with rfl | rfl | rfl
        · rfl
        · rw [show "/".endsWith "/" = true by decide +kernel, Bool.or_true]
        · rw [show "//".endsWith "/" = true by decide +kernel, Bool.or_true]
      rw [text]
      simp only [hFilled, hJoins, Bool.false_eq_true, if_false, if_true]
    rw [hText, ofText, String.toList_append, rootOf_append hRoot (head?_joined hNames), namesOf_root hRoot,
      namesOf_joined hNames hSome]

end PageCheck.Path
