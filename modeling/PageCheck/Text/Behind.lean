/-!
# Behind what was taken

A reader that takes at least one character of a text leaves an end of it, and not the whole.
-/

namespace PageCheck.Text

/-- Whether a text is an end of what stands behind the first character of another text. -/
def IsBehind (rest s : List Char) : Prop := ∃ c more, s = c :: more ∧ rest <:+ more

namespace IsBehind

variable {rest t s : List Char}

theorem cons (c : Char) (rest : List Char) : IsBehind rest (c :: rest) :=
  ⟨c, rest, rfl, List.suffix_rfl⟩

theorem suffix (h : IsBehind rest s) : rest <:+ s := by
  obtain ⟨c, more, rfl, hRest⟩ := h
  exact hRest.trans (List.suffix_cons c more)

theorem length_lt (h : IsBehind rest s) : rest.length < s.length := by
  obtain ⟨c, more, rfl, hRest⟩ := h
  exact Nat.lt_succ_of_le hRest.length_le

theorem of_suffix (hRest : rest <:+ t) (h : IsBehind t s) : IsBehind rest s := by
  obtain ⟨c, more, rfl, hText⟩ := h
  exact ⟨c, more, rfl, hRest.trans hText⟩

theorem trans_suffix (h : IsBehind rest t) (hText : t <:+ s) : IsBehind rest s := by
  obtain ⟨c, more, rfl, hRest⟩ := h
  obtain ⟨before, rfl⟩ := hText
  cases before with
  | nil => exact ⟨c, more, rfl, hRest⟩
  | cons d others =>
    refine ⟨d, others ++ c :: more, rfl, hRest.trans ?_⟩
    exact (List.suffix_cons c more).trans (List.suffix_append others (c :: more))

end IsBehind

end PageCheck.Text
