import PageCheck.Proofs.Text.Run
import PageCheck.Text.Blank

/-!
# Texts without blanks at their ends

Stripping gives a text itself if neither its first nor its last character is blank. What it takes
away is a margin of blanks, and a text stands in its margin in one way only.
-/

namespace PageCheck.Text

set_option autoImplicit false

theorem toNat_of_isAlphanum {c : Char} (h : c.isAlphanum = true) :
    48 ≤ c.toNat ∧ c.toNat ≤ 122 := by
  have hChar : ((c.isUpper || c.isLower) || c.isDigit) = true := h
  simp only [Bool.or_eq_true] at hChar
  rcases hChar with (hUpper | hLower) | hDigit
  · obtain ⟨hFirst, hLast⟩ : 'A'.val ≤ c.val ∧ c.val ≤ 'Z'.val := of_decide_eq_true hUpper
    have hFirst : 65 ≤ c.toNat := UInt32.le_iff_toNat_le.mp hFirst
    have hLast : c.toNat ≤ 90 := UInt32.le_iff_toNat_le.mp hLast
    omega
  · obtain ⟨hFirst, hLast⟩ := Bool.and_eq_true_iff.mp hLower
    have hFirst : 97 ≤ c.toNat := UInt32.le_iff_toNat_le.mp (of_decide_eq_true hFirst)
    have hLast : c.toNat ≤ 122 := UInt32.le_iff_toNat_le.mp (of_decide_eq_true hLast)
    omega
  · obtain ⟨hFirst, hLast⟩ := Char.isDigit_iff_toNat.mp hDigit
    have hFirst : 48 ≤ c.toNat := hFirst
    have hLast : c.toNat ≤ 57 := hLast
    omega

theorem isBlank_of_isAlphanum {c : Char} (h : c.isAlphanum = true) : isBlank c = false := by
  obtain ⟨hFirst, hLast⟩ := toNat_of_isAlphanum h
  simp only [isBlank, Bool.or_eq_false_iff, Bool.and_eq_false_iff, decide_eq_false_iff_not,
    beq_eq_false_iff_ne]
  omega

theorem strip_cons_of_isBlank {c : Char} (h : isBlank c = true) (s : List Char) :
    strip (c :: s) = strip s := by
  rw [strip, stripLeft, List.dropWhile_cons_of_pos h]
  rfl

theorem strip_of_ends {first last : Char} (hFirst : isBlank first = false)
    (hLast : isBlank last = false) (s : List Char) :
    strip (first :: (s ++ [last])) = first :: (s ++ [last]) := by
  have hLeft : stripLeft (first :: (s ++ [last])) = first :: (s ++ [last]) :=
    List.dropWhile_cons_of_neg (by simp [hFirst])
  have hReverse : (first :: (s ++ [last])).reverse = last :: (s.reverse ++ [first]) := by simp
  rw [strip, hLeft, stripRight, hReverse, List.dropWhile_cons_of_neg (by simp [hLast]), ← hReverse,
    List.reverse_reverse]

theorem strip_append_of_isBlank {z : List Char} (hz : ∀ c ∈ z, isBlank c = true) (s : List Char) :
    strip (s ++ z) = strip s := by
  rw [strip, strip, stripLeft, stripLeft, List.dropWhile_append]
  split
  · rename_i hEmpty
    have hGone : (z ++ []).dropWhile isBlank = [] := List.dropWhile_append_of_pos hz
    rw [List.append_nil] at hGone
    rw [hGone, List.isEmpty_iff.mp hEmpty]
  · have hReverse : ∀ c ∈ z.reverse, isBlank c = true := fun c hMem =>
      hz c (List.mem_reverse.mp hMem)
    rw [stripRight, stripRight, List.reverse_append, List.dropWhile_append_of_pos hReverse]

theorem strip_blank_append {a : List Char} (ha : ∀ c ∈ a, isBlank c = true) (s : List Char) :
    strip (a ++ s) = strip s := by
  rw [strip, stripLeft, List.dropWhile_append_of_pos ha]
  rfl

/-- The blanks on the two sides of a text. -/
@[ext] structure Margin where
  before : List Char
  after : List Char
  isBlank_before : ∀ c ∈ before, isBlank c = true
  isBlank_after : ∀ c ∈ after, isBlank c = true

namespace Margin

def around (m : Margin) (s : List Char) : List Char := m.before ++ (s ++ m.after)

/-- No blanks at all. -/
def none : Margin := ⟨[], [], by simp, by simp⟩

theorem around_none (s : List Char) : none.around s = s := List.append_nil s

theorem strip_around (m : Margin) (s : List Char) : strip (m.around s) = strip s := by
  rw [around, strip_blank_append m.isBlank_before, strip_append_of_isBlank m.isBlank_after]

theorem mem_around {m : Margin} {s : List Char} {c : Char} (hc : isBlank c = false) :
    c ∈ m.around s ↔ c ∈ s := by
  have hBefore : c ∉ m.before := fun hMem => by simp [m.isBlank_before c hMem] at hc
  have hAfter : c ∉ m.after := fun hMem => by simp [m.isBlank_after c hMem] at hc
  simp [around, hBefore, hAfter]

/-- Every text stands in a margin. -/
theorem exists_around (s : List Char) : ∃ m : Margin, s = m.around (strip s) := by
  have hLeft : s = s.takeWhile isBlank ++ stripLeft s := List.takeWhile_append_dropWhile.symm
  have hRight : stripLeft s = strip s ++ ((stripLeft s).reverse.takeWhile isBlank).reverse := by
    rw [strip, stripRight, ← List.reverse_append, List.takeWhile_append_dropWhile,
      List.reverse_reverse]
  refine ⟨⟨s.takeWhile isBlank, ((stripLeft s).reverse.takeWhile isBlank).reverse, ?_, ?_⟩, ?_⟩
  · intro c hMem
    exact holds_of_mem_takeWhile hMem
  · intro c hMem
    exact holds_of_mem_takeWhile (List.mem_reverse.mp hMem)
  · rw [around, ← hRight]
    exact hLeft

theorem isInfix_around (m : Margin) (s : List Char) : s <:+: m.around s :=
  ⟨m.before, m.after, List.append_assoc m.before s m.after⟩

theorem isBlank_head {s : List Char} (h : strip s = s) : ∀ c ∈ s.head?, isBlank c = false := by
  cases s with
  | nil => exact fun c hMem => nomatch hMem
  | cons d rest =>
    intro c hMem
    cases hMem
    apply Bool.eq_false_iff.mpr
    intro hBlank
    rw [strip_cons_of_isBlank hBlank] at h
    have hShort := length_strip_le rest
    rw [h, List.length_cons] at hShort
    omega

theorem around_inj {m n : Margin} {s t : List Char} (hs : strip s = s) (ht : strip t = t)
    (hSome : s ≠ []) (h : m.around s = n.around t) : m = n ∧ s = t := by
  have hText : s = t := by
    calc
      s = strip (m.around s) := by rw [strip_around, hs]
      _ = t := by rw [h, strip_around, ht]
  subst hText
  have hHead (z : List Char) : ∀ c ∈ (s ++ z).head?, isBlank c = false := by
    obtain ⟨d, rest, rfl⟩ := List.exists_cons_of_ne_nil hSome
    exact isBlank_head (s := d :: rest) hs
  have hBefore : m.before = n.before := by
    rw [← takeWhile_run m.isBlank_before (hHead m.after), ← takeWhile_run n.isBlank_before (hHead n.after)]
    exact congrArg (List.takeWhile isBlank) h
  rw [around, around, hBefore] at h
  exact ⟨Margin.ext hBefore (List.append_cancel_left (List.append_cancel_left h)), rfl⟩

end Margin

theorem strip_isInfix (s : List Char) : strip s <:+: s := by
  obtain ⟨m, hText⟩ := Margin.exists_around s
  calc
    strip s <:+: m.around (strip s) := m.isInfix_around (strip s)
    _ = s := hText.symm

theorem strip_strip (s : List Char) : strip (strip s) = strip s := by
  obtain ⟨m, hText⟩ := Margin.exists_around s
  calc
    strip (strip s) = strip (m.around (strip s)) := (m.strip_around (strip s)).symm
    _ = strip s := by rw [← hText]

structure IsTrimmed (s : List Char) : Prop where
  first : ∀ c ∈ s.head?, isBlank c = false
  last : ∀ c ∈ s.getLast?, isBlank c = false

theorem isTrimmed_strip (s : List Char) : IsTrimmed (strip s) where
  first := Margin.isBlank_head (strip_strip s)
  last := by
    intro c hLast
    rw [strip, stripRight, List.getLast?_reverse] at hLast
    exact fails_of_mem_head?_dropWhile hLast

theorem strip_of_isTrimmed {s : List Char} (h : IsTrimmed s) : strip s = s := by
  have hNone : ∀ c ∈ ([] : List Char), isBlank c = true := fun c hMem => nomatch hMem
  have hLeft : stripLeft s = s := dropWhile_run hNone h.first
  have hLast : ∀ c ∈ s.reverse.head?, isBlank c = false := by
    rw [List.head?_reverse]
    exact h.last
  have hRight : s.reverse.dropWhile isBlank = s.reverse := dropWhile_run hNone hLast
  rw [strip, hLeft, stripRight, hRight, List.reverse_reverse]

theorem strip_eq_self_iff {s : List Char} : strip s = s ↔ IsTrimmed s := by
  constructor
  · intro h
    rw [← h]
    exact isTrimmed_strip s
  · exact strip_of_isTrimmed

instance decidableIsTrimmed (s : List Char) : Decidable (IsTrimmed s) :=
  decidable_of_iff _ strip_eq_self_iff

end PageCheck.Text
