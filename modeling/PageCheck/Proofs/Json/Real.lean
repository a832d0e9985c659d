import PageCheck.Proofs.Json.RoundTrip

/-!
# Printed numbers in JSON

What can follow a value changes nothing about how the number before it is read. So a printed number
that is read back when it stands alone is read back wherever it stands.
-/

namespace PageCheck.Json

set_option autoImplicit false

variable {rest s t : List Char} {v : Value} {negative : Bool}

/-! What follows a number -/

theorem digitRun_append (hRest : EndsValue rest) (s : List Char) :
    digitRun (s ++ rest) = ((digitRun s).1, (digitRun s).2 ++ rest) := by
  have hRun : ∀ c ∈ s.takeWhile Char.isDigit, c.isDigit = true := fun c => Text.holds_of_mem_takeWhile
  have hEnd : ∀ c ∈ (s.dropWhile Char.isDigit ++ rest).head?, c.isDigit = false := by
    cases hDrop : s.dropWhile Char.isDigit with
    | nil => exact isDigit_of_endsValue hRest
    | cons d more =>
      intro c hHead
      refine Text.fails_of_mem_head?_dropWhile (s := s) ?_
      rw [hDrop]
      exact hHead
  have hText : s ++ rest = s.takeWhile Char.isDigit ++ (s.dropWhile Char.isDigit ++ rest) := by
    rw [← List.append_assoc, List.takeWhile_append_dropWhile]
  rw [digitRun, hText, Text.takeWhile_run hRun hEnd, Text.dropWhile_run hRun hEnd]
  rfl

theorem fraction_of_ne {c : Char} (h : c ≠ '.') (s : List Char) : fraction (c :: s) = ([], c :: s) := by
  unfold fraction
  split
  · rename_i hPoint
    exact absurd (List.cons.inj hPoint).1 h
  · rfl

theorem fraction_append (hRest : EndsValue rest) (s : List Char) :
    fraction (s ++ rest) = ((fraction s).1, (fraction s).2 ++ rest) := by
  cases s with
  | nil => exact fraction_of_endsValue hRest
  | cons c more =>
    by_cases hPoint : c = '.'
    · subst hPoint
      rw [List.cons_append, fraction, fraction, digitRun_append hRest]
      rcases digitRun more with ⟨_ | ⟨d, run⟩, after⟩ <;> rfl
    · rw [List.cons_append, fraction_of_ne hPoint, fraction_of_ne hPoint]
      rfl

/-- Whether a hyphen stands before the digits of a power, and what is behind its sign. -/
def signed (s : List Char) : Bool × List Char :=
  match s with
  | '-' :: body => (true, body)
  | '+' :: body => (false, body)
  | body => (false, body)

theorem signed_of_ne {c : Char} (hMinus : c ≠ '-') (hPlus : c ≠ '+') (s : List Char) :
    signed (c :: s) = (false, c :: s) := by
  unfold signed
  split
  · rename_i hFirst
    exact absurd (List.cons.inj hFirst).1 hMinus
  · rename_i hFirst
    exact absurd (List.cons.inj hFirst).1 hPlus
  · rfl

theorem signed_append (hRest : EndsValue rest) (s : List Char) :
    signed (s ++ rest) = ((signed s).1, (signed s).2 ++ rest) := by
  cases s with
  | nil =>
    rcases endsValue_cases hRest with rfl | ⟨c, more, rfl, hMark⟩
    · rfl
    · rcases hMark with rfl | rfl | rfl | rfl | rfl | rfl | rfl <;> rfl
  | cons c more =>
    by_cases hMinus : c = '-'
    · subst hMinus
      rfl
    by_cases hPlus : c = '+'
    · subst hPlus
      rfl
    rw [List.cons_append, signed_of_ne hMinus hPlus, signed_of_ne hMinus hPlus]
    rfl

/-- The power of ten that stands behind its mark. -/
def markedPower? (c : Char) (s : List Char) : Option Int × List Char :=
  match digitRun (signed s).2 with
  | ([], _) => (none, c :: s)
  | (digits, after) =>
    (some (if (signed s).1 then -(Text.numeral 10 digits : Int) else Text.numeral 10 digits), after)

theorem power?_cons (c : Char) (s : List Char) :
    power? (c :: s) = if c = 'e' ∨ c = 'E' then markedPower? c s else (none, c :: s) := rfl

theorem power?_append (hRest : EndsValue rest) (s : List Char) :
    power? (s ++ rest) = ((power? s).1, (power? s).2 ++ rest) := by
  cases s with
  | nil => exact power?_of_endsValue hRest
  | cons c more =>
    rw [List.cons_append, power?_cons, power?_cons]
    split
    · rw [markedPower?, markedPower?, signed_append hRest, digitRun_append hRest]
      rcases digitRun (signed more).2 with ⟨_ | ⟨d, run⟩, after⟩ <;> rfl
    · rfl

/-- The digits that a number begins with. A zero at the front is the only one. -/
def wholeRun (s : List Char) : List Char × List Char :=
  match s with
  | '0' :: rest => (['0'], rest)
  | _ => digitRun s

theorem wholeRun_append (hRest : EndsValue rest) (s : List Char) :
    wholeRun (s ++ rest) = ((wholeRun s).1, (wholeRun s).2 ++ rest) := by
  cases s with
  | nil =>
    rcases endsValue_cases hRest with rfl | ⟨c, more, rfl, hMark⟩
    · rfl
    · rcases hMark with rfl | rfl | rfl | rfl | rfl | rfl | rfl <;> rfl
  | cons c more =>
    by_cases hZero : c = '0'
    · subst hZero
      rfl
    · have hRun (tail : List Char) : wholeRun (c :: tail) = digitRun (c :: tail) := by
        unfold wholeRun
        split
        · rename_i hFirst
          exact absurd (List.cons.inj hFirst).1 hZero
        · rfl
      rw [List.cons_append, hRun, hRun, ← List.cons_append, digitRun_append hRest]

theorem number_eq (negative : Bool) (s : List Char) : number negative s =
    if (wholeRun s).1.isEmpty then stop .value s
    else if (fraction (wholeRun s).2).1.isEmpty ∧ (power? (fraction (wholeRun s).2).2).1.isNone then
      if Text.digitLimit < (wholeRun s).1.length then stop (.longNumber (wholeRun s).1.length) s
      else .ok (.int (if negative then -(Text.numeral 10 (wholeRun s).1 : Int)
        else Text.numeral 10 (wholeRun s).1), (power? (fraction (wholeRun s).2).2).2)
    else .ok (.real (Binary64.ofDecimal negative
        (Text.numeral 10 ((wholeRun s).1 ++ (fraction (wholeRun s).2).1))
        ((power? (fraction (wholeRun s).2).2).1.getD 0 - (fraction (wholeRun s).2).1.length)),
      (power? (fraction (wholeRun s).2).2).2) := rfl

theorem number_append (hRest : EndsValue rest) (h : number negative s = .ok (v, t)) :
    number negative (s ++ rest) = .ok (v, t ++ rest) := by
  rw [number_eq] at h
  rw [number_eq, wholeRun_append hRest]
  simp only [fraction_append hRest, power?_append hRest]
  split at h
  · cases h
  rename_i hSome
  rw [if_neg hSome]
  split at h
  · rename_i hWhole
    rw [if_pos hWhole]
    split at h
    · cases h
    rename_i hShort
    rw [if_neg hShort]
    cases h
    rfl
  · rename_i hReal
    rw [if_neg hReal]
    cases h
    rfl

/-! What a number leaves -/

theorem digitRun_suffix (s : List Char) : (digitRun s).2 <:+ s := List.dropWhile_suffix _

theorem fraction_suffix (s : List Char) : (fraction s).2 <:+ s := by
  unfold fraction
  split
  · rename_i more
    have hRun := digitRun_suffix more
    split
    · exact List.suffix_refl _
    · rename_i hDigits
      exact hRun.trans (List.suffix_cons '.' more)
  · exact List.suffix_refl _

theorem signed_suffix (s : List Char) : (signed s).2 <:+ s := by
  unfold signed
  split
  · exact List.suffix_cons _ _
  · exact List.suffix_cons _ _
  · exact List.suffix_refl _

theorem power?_suffix (s : List Char) : (power? s).2 <:+ s := by
  cases s with
  | nil => exact List.suffix_refl _
  | cons c more =>
    rw [power?_cons]
    split
    · have hRun := (digitRun_suffix (signed more).2).trans (signed_suffix more)
      unfold markedPower?
      split
      · exact List.suffix_refl _
      · rename_i digits after hDigits hSome
        rw [hSome] at hRun
        exact hRun.trans (List.suffix_cons c more)
    · exact List.suffix_refl _

theorem wholeRun_suffix (s : List Char) : (wholeRun s).2 <:+ s := by
  unfold wholeRun
  split
  · exact List.suffix_cons _ _
  · exact digitRun_suffix s

theorem number_suffix (h : number negative s = .ok (v, t)) : t <:+ s := by
  have hLeft : (power? (fraction (wholeRun s).2).2).2 <:+ s :=
    ((power?_suffix _).trans (fraction_suffix _)).trans (wholeRun_suffix s)
  rw [number_eq] at h
  split at h
  · cases h
  split at h
  · split at h
    · cases h
    · cases h
      exact hLeft
  · cases h
    exact hLeft

/-! Printed numbers -/

/-- The characters that numbers are printed with. -/
def isNumeric (c : Char) : Bool := c.isDigit || c == '.' || c == 'e' || c == '-' || c == '+'

theorem isNumeric_of_isDigit {c : Char} (h : c.isDigit = true) : isNumeric c = true := by
  simp [isNumeric, h]

/-- A digit, and behind it nothing but what numbers are printed with. -/
def Printed (s : List Char) : Prop :=
  ∃ c more, s = c :: more ∧ c.isDigit = true ∧ ∀ d ∈ more, isNumeric d = true

theorem printed_of_digits {digits : List Char} (hSome : digits ≠ [])
    (hDigits : ∀ c ∈ digits, c.isDigit = true) : Printed digits := by
  obtain ⟨c, more, rfl⟩ := List.exists_cons_of_ne_nil hSome
  exact ⟨c, more, rfl, hDigits c List.mem_cons_self,
    fun d hMem => isNumeric_of_isDigit (hDigits d (List.mem_cons_of_mem c hMem))⟩

theorem Printed.append (hs : Printed s) (ht : ∀ c ∈ t, isNumeric c = true) : Printed (s ++ t) := by
  obtain ⟨c, more, rfl, hDigit, hMore⟩ := hs
  exact ⟨c, more ++ t, rfl, hDigit, List.forall_mem_append.mpr ⟨hMore, ht⟩⟩

theorem Printed.isNumeric (h : Printed s) : ∀ c ∈ s, isNumeric c = true := by
  obtain ⟨c, more, rfl, hDigit, hMore⟩ := h
  exact List.forall_mem_cons.mpr ⟨isNumeric_of_isDigit hDigit, hMore⟩

theorem isNumeric_replicate (k : Nat) : ∀ c ∈ List.replicate k '0', isNumeric c = true := by
  intro c hMem
  rw [List.eq_of_mem_replicate hMem]
  rfl

section

variable {digits : List Char} (hSome : digits ≠ []) (hDigits : ∀ c ∈ digits, c.isDigit = true)

include hSome hDigits

theorem printed_take {k : Nat} (h : k ≠ 0) : Printed (digits.take k) := by
  refine printed_of_digits ?_ fun c hMem => hDigits c (List.mem_of_mem_take hMem)
  rw [ne_eq, List.take_eq_nil_iff]
  exact fun hNone => hNone.elim h hSome

theorem printed_positional (lead : Int) : Printed (Layout.positional digits lead) := by
  have hNumeric : ∀ c ∈ digits, isNumeric c = true := fun c hMem => isNumeric_of_isDigit (hDigits c hMem)
  rw [Layout.positional]
  split
  · refine Printed.append (s := ['0']) (printed_of_digits (by decide) (by decide)) ?_
    exact List.forall_mem_cons.mpr ⟨rfl, List.forall_mem_append.mpr ⟨isNumeric_replicate _, hNumeric⟩⟩
  · rename_i hLead
    have hWhole : Printed (digits.take (lead + 1).toNat) := printed_take hSome hDigits (by omega)
    refine (hWhole.append (isNumeric_replicate _)).append ?_
    refine List.forall_mem_cons.mpr ⟨rfl, ?_⟩
    split
    · decide
    · exact fun c hMem => hNumeric c (List.mem_of_mem_drop hMem)

theorem printed_scientific (layout : Layout) (lead : Int) : Printed (layout.scientific digits lead) := by
  have hNumeric : ∀ c ∈ digits, isNumeric c = true := fun c hMem => isNumeric_of_isDigit (hDigits c hMem)
  have hFirst : Printed (digits.take 1) := printed_take hSome hDigits (by decide)
  have hPower : ∀ c ∈ Nat.toDigits 10 lead.natAbs, isNumeric c = true := fun c hMem =>
    isNumeric_of_isDigit (Text.isDigit_of_mem_toDigits hMem)
  rw [Layout.scientific]
  refine (hFirst.append ?_).append ?_
  · cases hRest : digits.drop 1 with
    | nil => exact nofun
    | cons d more =>
      refine List.forall_mem_cons.mpr ⟨rfl, fun c hMem => hNumeric c ?_⟩
      exact List.mem_of_mem_drop (hRest ▸ hMem)
  · refine List.forall_mem_cons.mpr ⟨rfl, List.forall_mem_cons.mpr ⟨?_, ?_⟩⟩
    · split <;> rfl
    · exact List.forall_mem_append.mpr ⟨isNumeric_replicate _, hPower⟩

end

theorem printed_write (layout : Layout) (m : Nat) (e : Int) :
    Printed (layout.write (.finite false m e)).toList := by
  have hSome := Nat.toDigits_ne_nil (n := (Binary64.shortest m e).digits) (b := 10)
  have hDigits : ∀ c ∈ Nat.toDigits 10 (Binary64.shortest m e).digits, c.isDigit = true :=
    fun c => Text.isDigit_of_mem_toDigits
  rw [Layout.write]
  split
  · exact ⟨'0', ['.', '0'], rfl, rfl, by decide⟩
  · rw [String.toList_append, String.toList_ofList]
    refine Eq.mpr (congrArg Printed (List.nil_append _)) ?_
    split
    · exact printed_positional hSome hDigits _
    · exact printed_scientific hSome hDigits layout _

theorem isSpace_of_isNumeric {c : Char} (h : isNumeric c = true) : isSpace c = false := by
  rw [Bool.eq_false_iff]
  intro hSpace
  simp only [isSpace, Bool.or_eq_true, beq_iff_eq] at hSpace
  rcases hSpace with ((rfl | rfl) | rfl) | rfl <;> cases h

/-! Reading printed numbers -/

theorem gives_of_read (h : read s = .ok v) : ∃ t, Gives (readValue (skip s)) v t ∧ skip t = [] := by
  unfold read at h
  split at h
  · cases h
  cases hValue : readValue (skip s) with
  | error e =>
    rw [hValue] at h
    cases h
  | ok found =>
    obtain ⟨w, t, hShort⟩ := found
    rw [hValue] at h
    simp only [bind, Except.bind] at h
    split at h
    · rename_i hEnd
      cases h
      exact ⟨t, ⟨hShort, rfl⟩, hEnd⟩
    · cases h

theorem readValue_of_isDigit {c : Char} (h : c.isDigit = true) (s : List Char) :
    readValue (c :: s) = readAtom (c :: s) := by
  rw [readValue]
  all_goals
    rintro rest ⟨⟩
    cases h

theorem gives_readValue_number {c : Char} (hDigit : c.isDigit = true) :
    Gives (readValue (c :: s)) v t ↔ number false (c :: s) = .ok (v, t) ∧ t.length < (c :: s).length := by
  rw [readValue_of_isDigit hDigit, ← atom_of_isDigit hDigit]
  constructor
  · rintro ⟨hShort, hRead⟩
    refine ⟨?_, hShort⟩
    unfold readAtom at hRead
    split at hRead
    · cases hRead
    · rename_i hAtom
      split at hRead
      · cases hRead
        exact hAtom
      · cases hRead
  · rintro ⟨hAtom, hShort⟩
    exact gives_readAtom hAtom hShort

theorem skip_of_isNumeric (h : ∀ c ∈ s, isNumeric c = true) : skip s = s := by
  cases s with
  | nil => rfl
  | cons c more =>
    refine List.dropWhile_cons_of_neg ?_
    rw [isSpace_of_isNumeric (h c List.mem_cons_self)]
    exact Bool.false_ne_true

theorem read_of_number {c : Char} (hDigit : c.isDigit = true) (h : number false (c :: s) = .ok (v, [])) :
    read (c :: s) = .ok v :=
  read_of_gives ((gives_readValue_number hDigit).mpr ⟨h, Nat.zero_lt_succ s.length⟩) rfl

/-- A printed number that is read back when it stands alone is read back wherever it stands. -/
theorem readsBack_real {m : Nat} {e : Int}
    (h : read (Layout.printed.write (.finite false m e)).toList = .ok (.real (.finite false m e))) :
    ReadsBack (.real (.finite false m e)) := by
  have hPrinted := printed_write Layout.printed m e
  have hNumeric := hPrinted.isNumeric
  obtain ⟨t, hValue, hEnd⟩ := gives_of_read h
  rw [skip_of_isNumeric hNumeric] at hValue
  obtain ⟨c, more, hText, hDigit, _⟩ := hPrinted
  rw [hText, gives_readValue_number hDigit] at hValue
  obtain ⟨hNumber, hShort⟩ := hValue
  -- What is left has no blanks in it, and is blank.
  have hNone : t = [] := by
    rw [← hEnd]
    refine (skip_of_isNumeric fun d hMem => ?_).symm
    exact hNumeric d (hText ▸ (number_suffix hNumber).mem hMem)
  subst hNone
  intro indent rest hRest
  rw [write, hText, List.cons_append, gives_readValue_number hDigit]
  refine ⟨number_append hRest hNumber, ?_⟩
  rw [List.length_cons, List.length_append]
  omega

end PageCheck.Json
