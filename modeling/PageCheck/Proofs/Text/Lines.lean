import PageCheck.Text.Lines

/-!
# Cutting texts into lines

Behind a line end the cut starts anew, so the lines of two texts follow each other when the first
one ends with a line end and no pair of carriage return and line feed is torn apart. Every text is
put together from lines and terminators in exactly one way, and lines that were joined by any mixture
of breaks come back one by one.
-/

namespace PageCheck.Text

set_option autoImplicit false

theorem lines_cons_of_not_end {c : Char} (hc : isLineEnd c = false) (s : List Char) :
    lines (c :: s) = match lines s with
      | [] => [[c]]
      | line :: others => (c :: line) :: others := by
  rw [lines.eq_def]
  split
  · rename_i hNil
    cases hNil
  · rename_i hPair
    cases hPair
    cases hc
  · rename_i hCons
    cases hCons
    rw [hc]
    rfl

theorem lines_cons_of_end {c : Char} (hc : isLineEnd c = true) {s : List Char}
    (h : ¬ (c = '\r' ∧ s.head? = some '\n')) : lines (c :: s) = [] :: lines s := by
  rw [lines.eq_def]
  split
  · rename_i hNil
    cases hNil
  · rename_i hPair
    cases hPair
    exact absurd ⟨rfl, rfl⟩ h
  · rename_i hCons
    cases hCons
    exact if_pos hc

theorem lines_ne_nil {s : List Char} (h : s ≠ []) : lines s ≠ [] := by
  rw [lines.eq_def]
  split
  · exact absurd rfl h
  · simp
  · split
    · simp
    · split <;> simp

/-- The first text ends with a line end, and the second one does not continue that line end. -/
structure Separate (a b : List Char) : Prop where
  ended : ∀ c ∈ a.getLast?, isLineEnd c = true
  whole : ¬ (a.getLast? = some '\r' ∧ b.head? = some '\n')

theorem Separate.tail {c : Char} {a b : List Char} (h : Separate (c :: a) b) : Separate a b := by
  cases a with
  | nil =>
    constructor
    · intro d hMem
      cases hMem
    · rintro ⟨hLast, _⟩
      cases hLast
  | cons d more => exact ⟨h.ended, h.whole⟩

theorem lines_append {a b : List Char} (h : Separate a b) :
    lines (a ++ b) = lines a ++ lines b := by
  fun_induction lines a with
  | case1 => rfl
  | case2 rest ih => simp only [List.cons_append, lines, ih h.tail.tail]
  | case3 c rest hPair hc ih =>
    rw [List.cons_append, lines_cons_of_end hc, ih h.tail, List.cons_append]
    rintro ⟨rfl, hHead⟩
    cases rest with
    | nil => exact h.whole ⟨rfl, hHead⟩
    | cons d more =>
      cases hHead
      exact hPair more rfl rfl
  | case4 c rest hPair hc hNil ih =>
    -- Only the empty text has no lines, so the character that is no line end would be the last.
    cases rest with
    | nil => exact absurd (h.ended c rfl) hc
    | cons d more => exact absurd hNil (lines_ne_nil (by simp))
  | case5 c rest hPair hc line others hLines ih =>
    rw [List.cons_append, lines_cons_of_not_end (by simpa using hc), ih h.tail, hLines]
    rfl

theorem lines_append_of_lines_eq {line s first : List Char} {others : List (List Char)}
    (hLine : ∀ c ∈ line, isLineEnd c = false) (hLines : lines s = first :: others) :
    lines (line ++ s) = (line ++ first) :: others := by
  induction line with
  | nil => exact hLines
  | cons c rest ih =>
    rw [List.cons_append, lines_cons_of_not_end (hLine c List.mem_cons_self),
      ih fun d hd => hLine d (List.mem_cons_of_mem _ hd)]
    rfl

theorem lines_of_no_end {line : List Char} (hLine : ∀ c ∈ line, isLineEnd c = false)
    (hNonempty : line ≠ []) : lines line = [line] := by
  induction line with
  | nil => exact absurd rfl hNonempty
  | cons c rest ih =>
    rw [lines_cons_of_not_end (hLine c List.mem_cons_self)]
    cases rest with
    | nil => rfl
    | cons d more => rw [ih (fun e he => hLine e (List.mem_cons_of_mem _ he)) (by simp)]

inductive IsTerminator : List Char → Prop where
  | single {c : Char} (hEnd : isLineEnd c = true) : IsTerminator [c]
  | pair : IsTerminator ['\r', '\n']

/-- A text is put together from lines, each with its terminator. Only the last line may go without,
and then it is not empty. A carriage return takes the line feed behind it along. -/
inductive IsCut : List Char → List (List Char) → Prop where
  | nil : IsCut [] []
  | last {line : List Char} (hLine : ∀ c ∈ line, isLineEnd c = false) (hSome : line ≠ []) :
      IsCut line [line]
  | cons {line terminator rest : List Char} {others : List (List Char)}
      (hLine : ∀ c ∈ line, isLineEnd c = false) (hTerminator : IsTerminator terminator)
      (hWhole : ¬ (terminator = ['\r'] ∧ rest.head? = some '\n')) (hRest : IsCut rest others) :
      IsCut (line ++ terminator ++ rest) (line :: others)

theorem lines_terminator {terminator : List Char} (h : IsTerminator terminator) :
    lines terminator = [[]] := by
  cases h with
  | single hEnd => exact lines_cons_of_end hEnd (fun hTorn => nomatch hTorn.2)
  | pair => rfl

theorem separate_terminator {line terminator rest : List Char} (hTerminator : IsTerminator terminator)
    (hWhole : ¬ (terminator = ['\r'] ∧ rest.head? = some '\n')) :
    Separate (line ++ terminator) rest := by
  cases hTerminator with
  | single hEnd =>
    constructor
    · intro c hMem
      rw [List.getLast?_concat] at hMem
      cases hMem
      exact hEnd
    · rintro ⟨hLast, hHead⟩
      rw [List.getLast?_concat] at hLast
      exact hWhole ⟨congrArg (fun c => [c]) (Option.some.inj hLast), hHead⟩
  | pair =>
    have hLast : (line ++ ['\r', '\n']).getLast? = some '\n' := by simp
    constructor
    · intro c hMem
      rw [hLast] at hMem
      cases hMem
      decide
    · rintro ⟨hReturn, _⟩
      rw [hLast] at hReturn
      cases hReturn

theorem IsCut.cons_char {c : Char} (hc : isLineEnd c = false) {text line : List Char}
    {others : List (List Char)} (h : IsCut text (line :: others)) :
    IsCut (c :: text) ((c :: line) :: others) := by
  have hCons {line : List Char} (hLine : ∀ d ∈ line, isLineEnd d = false) :
      ∀ d ∈ c :: line, isLineEnd d = false := List.forall_mem_cons.mpr ⟨hc, hLine⟩
  cases h with
  | last hLine hSome => exact .last (hCons hLine) (List.cons_ne_nil _ _)
  | cons hLine hTerminator hWhole hRest => exact .cons (hCons hLine) hTerminator hWhole hRest

theorem isCut_lines (text : List Char) : IsCut text (lines text) := by
  fun_induction lines text with
  | case1 => exact .nil
  | case2 rest ih =>
    have hEmpty : ∀ c ∈ ([] : List Char), isLineEnd c = false := by simp
    exact .cons hEmpty .pair (fun hTorn => nomatch hTorn.1) ih
  | case3 c rest hPair hc ih =>
    have hEmpty : ∀ d ∈ ([] : List Char), isLineEnd d = false := by simp
    refine .cons hEmpty (.single hc) ?_ ih
    rintro ⟨hReturn, hHead⟩
    obtain ⟨more, rfl⟩ := List.head?_eq_some_iff.mp hHead
    cases hReturn
    exact hPair more rfl rfl
  | case4 c rest hPair hc hNil ih =>
    rw [hNil] at ih
    cases ih
    exact .last (List.forall_mem_cons.mpr ⟨by simpa using hc, by simp⟩) (List.cons_ne_nil _ _)
  | case5 c rest hPair hc line others hLines ih =>
    rw [hLines] at ih
    exact ih.cons_char (by simpa using hc)

theorem IsCut.isLineEnd_of_mem {text : List Char} {ls : List (List Char)} (h : IsCut text ls) :
    ∀ line ∈ ls, ∀ c ∈ line, isLineEnd c = false := by
  induction h with
  | nil => exact fun line hMem => nomatch hMem
  | last hLine => exact fun line hMem => List.mem_singleton.mp hMem ▸ hLine
  | cons hLine _ _ _ ih => exact List.forall_mem_cons.mpr ⟨hLine, ih⟩

theorem isLineEnd_of_mem_lines {text line : List Char} (h : line ∈ lines text) :
    ∀ c ∈ line, isLineEnd c = false :=
  (isCut_lines text).isLineEnd_of_mem line h

inductive LineBreak where
  | feed
  | carriage
  | pair
deriving DecidableEq, Repr

def LineBreak.chars : LineBreak → List Char
  | feed => ['\n']
  | carriage => ['\r']
  | pair => ['\r', '\n']

/-- Lines with a break after each but the last. The first break is that of number zero. -/
def join (breaks : Nat → LineBreak) : List (List Char) → List Char
  | [] => []
  | [line] => line
  | line :: rest => line ++ (breaks 0).chars ++ join (fun i => breaks (i + 1)) rest

def ending (final : Option LineBreak) : List Char := (final.map LineBreak.chars).getD []

theorem isTerminator_chars (b : LineBreak) : IsTerminator b.chars := by
  cases b with
  | feed => exact .single (by decide)
  | carriage => exact .single (by decide)
  | pair => exact .pair

theorem separate_break {line s : List Char} (b : LineBreak) (h : s.head? ≠ some '\n') :
    Separate (line ++ b.chars) s :=
  separate_terminator (isTerminator_chars b) fun hTorn => h hTorn.2

theorem head?_join {breaks : Nat → LineBreak} {line : List Char} (rest : List (List Char))
    (tail : List Char) (hNonempty : line ≠ []) :
    (join breaks (line :: rest) ++ tail).head? = line.head? := by
  obtain ⟨c, more, rfl⟩ := List.exists_cons_of_ne_nil hNonempty
  cases rest with
  | nil => rfl
  | cons next others => rfl

theorem lines_join {ls : List (List Char)} (breaks : Nat → LineBreak) (final : Option LineBreak)
    (hSome : ls ≠ []) (hNonempty : ∀ line ∈ ls, line ≠ [])
    (hLines : ∀ line ∈ ls, ∀ c ∈ line, isLineEnd c = false) :
    lines (join breaks ls ++ ending final) = ls := by
  induction ls generalizing breaks with
  | nil => exact absurd rfl hSome
  | cons line rest ih =>
    have hLine := hLines line List.mem_cons_self
    cases rest with
    | nil =>
      cases final with
      | none =>
        rw [join, ending, Option.map_none, Option.getD_none, List.append_nil]
        exact lines_of_no_end hLine (hNonempty line List.mem_cons_self)
      | some b =>
        have hText := lines_append_of_lines_eq hLine (lines_terminator (isTerminator_chars b))
        rwa [List.append_nil] at hText
    | cons next others =>
      have hNext : next ≠ [] := hNonempty next (by simp)
      obtain ⟨c, more, hHead⟩ := List.exists_cons_of_ne_nil hNext
      have hFront : (join (fun i => breaks (i + 1)) (next :: others) ++ ending final).head? ≠
          some '\n' := by
        rw [head?_join _ _ hNext, hHead, List.head?_cons]
        intro hFeed
        cases hFeed
        have hEnd := hLines next (by simp) '\n' (by simp [hHead])
        cases hEnd
      have hFirst := lines_append_of_lines_eq hLine (lines_terminator (isTerminator_chars (breaks 0)))
      rw [join, List.append_assoc, lines_append (separate_break _ hFront), hFirst, List.append_nil,
        ih _ (by simp) (fun l hl => hNonempty l (List.mem_cons_of_mem _ hl))
          (fun l hl => hLines l (List.mem_cons_of_mem _ hl))]
      · rfl
      · simp

/-! Unified line ends -/

theorem unifyLineEnds_append {s : List Char} (h : '\r' ∉ s) (t : List Char) :
    unifyLineEnds (s ++ t) = s ++ unifyLineEnds t := by
  induction s with
  | nil => rfl
  | cons c s ih =>
    rw [List.mem_cons, not_or] at h
    rw [List.cons_append, unifyLineEnds, ih h.2, List.cons_append]
    · exact fun _ hMark _ => h.1 hMark.symm
    · exact fun hMark => h.1 hMark.symm

/-- A pair of carriage return and line feed is one line end before and after, so each line stays as
it is. -/
theorem lines_unifyLineEnds (s : List Char) : lines (unifyLineEnds s) = lines s := by
  have hFeed (rest : List Char) : lines ('\n' :: rest) = [] :: lines rest :=
    lines_cons_of_end (by decide) (fun hTorn => nomatch hTorn.1)
  fun_induction unifyLineEnds s with
  | case1 => rfl
  | case2 rest ih =>
    rw [hFeed, ih]
    rfl
  | case3 rest hAlone ih =>
    have hHead : ¬ ('\r' = '\r' ∧ rest.head? = some '\n') := by
      rintro ⟨_, hHead⟩
      obtain ⟨more, rfl⟩ := List.head?_eq_some_iff.mp hHead
      exact hAlone more rfl
    rw [hFeed, ih, lines_cons_of_end (by decide) hHead]
  | case4 c rest _ hOther ih =>
    cases hEnd : isLineEnd c with
    | false => rw [lines_cons_of_not_end hEnd, lines_cons_of_not_end hEnd, ih]
    | true =>
      rw [lines_cons_of_end hEnd fun hTorn => hOther hTorn.1,
        lines_cons_of_end hEnd fun hTorn => hOther hTorn.1, ih]

theorem forall_mem_unifyLineEnds {p : Char → Prop} (hFeed : p '\n') {s : List Char} (h : ∀ c ∈ s, p c) :
    ∀ c ∈ unifyLineEnds s, p c := by
  fun_induction unifyLineEnds s with
  | case1 => exact h
  | case2 rest ih =>
    obtain ⟨_, hRest⟩ := List.forall_mem_cons.mp (List.forall_mem_cons.mp h).2
    exact List.forall_mem_cons.mpr ⟨hFeed, ih hRest⟩
  | case3 rest _ ih => exact List.forall_mem_cons.mpr ⟨hFeed, ih (List.forall_mem_cons.mp h).2⟩
  | case4 c rest _ _ ih =>
    obtain ⟨hFirst, hRest⟩ := List.forall_mem_cons.mp h
    exact List.forall_mem_cons.mpr ⟨hFirst, ih hRest⟩

end PageCheck.Text
