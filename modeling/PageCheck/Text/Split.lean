/-!
# Cutting a text at every occurrence of a mark

The pieces, joined by the mark, give the text back; there is always at least one piece.
-/

namespace PageCheck.Text

variable {α : Type} [DecidableEq α]

def splitAt (mark : α) : List α → List (List α)
  | [] => [[]]
  | c :: rest =>
    if c = mark then [] :: splitAt mark rest
    else match splitAt mark rest with
      | [] => [[c]]
      | piece :: pieces => (c :: piece) :: pieces

theorem splitAt_ne_nil (mark : α) (s : List α) : splitAt mark s ≠ [] := by
  cases s with
  | nil => simp [splitAt]
  | cons c rest =>
    rw [splitAt]
    split
    · simp
    · split <;> simp

theorem length_le_of_mem_splitAt {mark : α} {s piece : List α}
    (h : piece ∈ splitAt mark s) : piece.length ≤ s.length := by
  induction s generalizing piece with
  | nil => simp_all [splitAt]
  | cons c rest ih =>
    rw [splitAt] at h
    split at h
    · rcases List.mem_cons.mp h with rfl | h
      · simp
      · exact Nat.le_succ_of_le (ih h)
    · split at h
      · simp_all
      · rename_i head tail heq
        rcases List.mem_cons.mp h with rfl | h
        · have : head.length ≤ rest.length := ih (by simp [heq])
          simpa using this
        · exact Nat.le_succ_of_le (ih (by simp [heq, h]))

/-- The text before the first mark: all of it if there is none. -/
def before (mark : Char) (s : List Char) : List Char := s.takeWhile (· != mark)

end PageCheck.Text
