/-!
# Runs of characters

Taking characters, or codes, while they are of one kind takes a run of them whole, if what follows
the run begins with no other such character.
-/

namespace PageCheck.Text

set_option autoImplicit false

/-- What holds of all characters of a text is decided along the text, not over all characters. -/
instance decidableForallMem (p : Char → Prop) [DecidablePred p] (s : List Char) :
    Decidable (∀ c ∈ s, p c) :=
  List.decidableBAll p s

variable {α : Type} {p : α → Bool}

theorem takeWhile_run {run after : List α} (hRun : ∀ c ∈ run, p c = true)
    (hEnd : ∀ c ∈ after.head?, p c = false) : (run ++ after).takeWhile p = run := by
  rw [List.takeWhile_append_of_pos hRun]
  cases after with
  | nil => rw [List.takeWhile_nil, List.append_nil]
  | cons c rest => rw [List.takeWhile_cons, hEnd c rfl, if_neg Bool.false_ne_true, List.append_nil]

theorem dropWhile_run {run after : List α} (hRun : ∀ c ∈ run, p c = true)
    (hEnd : ∀ c ∈ after.head?, p c = false) : (run ++ after).dropWhile p = after := by
  rw [List.dropWhile_append_of_pos hRun]
  cases after with
  | nil => rfl
  | cons c rest => rw [List.dropWhile_cons, hEnd c rfl, if_neg Bool.false_ne_true]

/-- A run and what follows it can be told apart. -/
theorem append_inj_of_run {a b s t : List α} (hA : ∀ c ∈ a, p c = true)
    (hB : ∀ c ∈ b, p c = true) (hS : ∀ c ∈ s.head?, p c = false) (hT : ∀ c ∈ t.head?, p c = false)
    (h : a ++ s = b ++ t) : a = b ∧ s = t := by
  have hRun := congrArg (List.takeWhile p) h
  rw [takeWhile_run hA hS, takeWhile_run hB hT] at hRun
  have hRest := congrArg (List.dropWhile p) h
  rw [dropWhile_run hA hS, dropWhile_run hB hT] at hRest
  exact ⟨hRun, hRest⟩

theorem drop_length_takeWhile (s : List α) : s.drop (s.takeWhile p).length = s.dropWhile p := by
  calc
    s.drop (s.takeWhile p).length
        = (s.takeWhile p ++ s.dropWhile p).drop (s.takeWhile p).length := by
      rw [List.takeWhile_append_dropWhile]
    _ = s.dropWhile p := List.drop_left

theorem holds_of_mem_takeWhile {c : α} {s : List α} (h : c ∈ s.takeWhile p) : p c = true :=
  List.all_eq_true.mp List.all_takeWhile c h

theorem notMem_takeWhile {c : α} (h : p c = false) (s : List α) : c ∉ s.takeWhile p := by
  intro hMem
  rw [holds_of_mem_takeWhile hMem] at h
  cases h

theorem fails_of_mem_head?_dropWhile {c : α} {s : List α} (h : c ∈ (s.dropWhile p).head?) :
    p c = false := by
  have hHead := List.head?_dropWhile_not p s
  rw [Option.mem_def.mp h] at hHead
  exact hHead

end PageCheck.Text
