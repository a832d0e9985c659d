import PageCheck.Text.Split

/-!
# The pieces of a text

Cutting at a mark is the cut of lists at an element, so what is known of the pieces there holds
here as well. A text has one piece more than it has marks.
-/

namespace PageCheck.Text

set_option autoImplicit false

theorem splitAt_eq_splitOn (mark : Char) (s : List Char) : splitAt mark s = s.splitOn mark := by
  induction s with
  | nil => rfl
  | cons c rest ih =>
    rw [splitAt, List.splitOn_cons_eq_if_modifyHead, ← ih]
    by_cases hMark : c = mark
    · simp [hMark]
    · simp only [hMark, if_false, beq_iff_eq]
      cases hPieces : splitAt mark rest with
      | nil => exact absurd hPieces (splitAt_ne_nil mark rest)
      | cons piece pieces => rfl

theorem notMem_of_mem_splitAt {mark : Char} {s piece : List Char} (h : piece ∈ splitAt mark s) :
    mark ∉ piece := by
  induction s generalizing piece with
  | nil =>
    rw [List.mem_singleton.mp h]
    exact List.not_mem_nil
  | cons c rest ih =>
    rw [splitAt] at h
    split at h
    · rcases List.mem_cons.mp h with rfl | hMem
      · exact List.not_mem_nil
      · exact ih hMem
    · rename_i hMark
      split at h
      · rename_i hNone
        exact absurd hNone (splitAt_ne_nil mark rest)
      · rename_i first pieces hPieces
        rw [hPieces] at ih
        rcases List.mem_cons.mp h with rfl | hMem
        · rw [List.mem_cons, not_or]
          exact ⟨fun hSame => hMark hSame.symm, ih List.mem_cons_self⟩
        · exact ih (List.mem_cons_of_mem first hMem)

theorem splitAt_of_notMem {mark : Char} {s : List Char} (h : mark ∉ s) :
    splitAt mark s = [s] := by
  rw [splitAt_eq_splitOn, List.splitOn_eq_singleton h]

theorem splitAt_append {mark : Char} {a : List Char} (h : mark ∉ a) (b : List Char) :
    splitAt mark (a ++ mark :: b) = a :: splitAt mark b := by
  rw [splitAt_eq_splitOn, splitAt_eq_splitOn, List.splitOn_append_cons_self_of_not_mem h]

/-- A piece is a contiguous part of the text. -/
theorem isInfix_of_mem_splitAt {mark : Char} {s piece : List Char} (h : piece ∈ splitAt mark s) :
    piece <:+: s := by
  by_cases hMark : mark ∈ s
  · obtain ⟨a, b, hText, hFirst⟩ := List.eq_append_cons_of_mem hMark
    rw [hText, splitAt_append hFirst] at h
    rw [hText]
    rcases List.mem_cons.mp h with rfl | hLater
    · exact (List.prefix_append piece (mark :: b)).isInfix
    · have hRest : b <:+ a ++ mark :: b := (List.suffix_cons mark b).trans (List.suffix_append a _)
      exact (isInfix_of_mem_splitAt hLater).trans hRest.isInfix
  · rw [splitAt_of_notMem hMark, List.mem_singleton] at h
    exact h ▸ List.infix_rfl
termination_by s.length
decreasing_by
  simp only [hText, List.length_append, List.length_cons]
  omega

theorem length_splitAt (mark : Char) (s : List Char) :
    (splitAt mark s).length = s.count mark + 1 := by
  rw [splitAt_eq_splitOn]
  induction s with
  | nil => rfl
  | cons c rest ih =>
    rw [List.splitOn_cons_eq_if_modifyHead, List.count_cons]
    split
    · rw [List.length_cons, ih]
    · rw [List.length_modifyHead, ih, Nat.add_zero]

theorem splitAt_eq_pair_iff {mark : Char} {s a b : List Char} :
    splitAt mark s = [a, b] ↔ s = a ++ mark :: b ∧ mark ∉ a ∧ mark ∉ b := by
  constructor
  · intro h
    have hText : s = a ++ mark :: b := by
      have hJoined : [mark].intercalate (s.splitOn mark) = s := List.intercalate_splitOn mark
      rw [← splitAt_eq_splitOn, h] at hJoined
      simpa using hJoined.symm
    have hCount := length_splitAt mark s
    rw [h, hText, List.count_append, List.count_cons_self] at hCount
    simp only [List.length_cons, List.length_nil] at hCount
    exact ⟨hText, List.count_eq_zero.mp (by omega), List.count_eq_zero.mp (by omega)⟩
  · rintro ⟨rfl, hLeft, hRight⟩
    rw [splitAt_append hLeft, splitAt_of_notMem hRight]

theorem splitAt_of_count_eq_one {mark : Char} {a b : List Char} (h : (a ++ mark :: b).count mark = 1) :
    splitAt mark (a ++ mark :: b) = [a, b] := by
  rw [List.count_append, List.count_cons_self] at h
  have hLeft : mark ∉ a := List.count_eq_zero.mp (by omega)
  have hRight : mark ∉ b := List.count_eq_zero.mp (by omega)
  exact splitAt_eq_pair_iff.mpr ⟨rfl, hLeft, hRight⟩

theorem before_append {mark : Char} {a : List Char} (h : mark ∉ a) (b : List Char) :
    before mark (a ++ mark :: b) = a := by
  rw [before, List.takeWhile_append_of_pos]
  · simp
  · intro c hc
    exact bne_iff_ne.mpr (fun hEq => h (hEq ▸ hc))

end PageCheck.Text
