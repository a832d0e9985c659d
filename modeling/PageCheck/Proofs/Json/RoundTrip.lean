import PageCheck.Proofs.Json.Number
import PageCheck.Proofs.Json.Text

/-!
# Written JSON is read back

What is written for a value is read as that value, in the compact and in the pretty form, wherever
it stands. Lists and objects are read back if what they hold is; the keys of an object have to be
different texts.
-/

namespace PageCheck.Json

set_option autoImplicit false

variable {s t rest : List Char} {v : Value} {items : List Value} {members all : List (Value × Value)}

theorem skip_append {gap : List Char} (h : ∀ c ∈ gap, isSpace c = true) (s : List Char) :
    skip (gap ++ s) = skip s := List.dropWhile_append_of_pos h

theorem isSpace_of_mem_lineBreak (indent : Indent) : ∀ c ∈ lineBreak indent, isSpace c = true := by
  cases indent with
  | none => simp [lineBreak]
  | some depth =>
    rintro c (_ | ⟨_, hMem⟩)
    · rfl
    · rw [List.eq_of_mem_replicate hMem]
      rfl

/-! One step of each reader -/

theorem gives_readAtom (hAtom : atom s = .ok (v, rest)) (hShort : rest.length < s.length) :
    Gives (readAtom s) v rest := by
  refine ⟨hShort, ?_⟩
  unfold readAtom
  split
  · rename_i hFault
    cases hAtom.symm.trans hFault
  · rename_i hFound
    cases hAtom.symm.trans hFound
    rw [dif_pos hShort]

/-- A list goes on with its closing bracket, or with a comma and more items. -/
theorem gives_readItems (hValue : Gives (readValue (skip s)) v t)
    (hNext : skip t = ']' :: rest ∧ items = [] ∨
      ∃ more, skip t = ',' :: more ∧ Gives (readItems more) items rest) :
    Gives (readItems s) (v :: items) rest := by
  obtain ⟨hShort, hValue⟩ := hValue
  have hSkip := length_skip_le s
  have hRest : rest.length < t.length := by
    rcases hNext with ⟨hEnd, _⟩ | ⟨more, hMark, hItems, _⟩
    · exact length_after_skip hEnd
    · exact Nat.lt_trans hItems (length_after_skip hMark)
  refine ⟨by omega, ?_⟩
  rw [readItems]
  split
  · rename_i hFault
    cases hValue.symm.trans hFault
  · rename_i hFound
    cases hValue.symm.trans hFound
    rcases hNext with ⟨hEnd, rfl⟩ | ⟨more, hMark, _, hItems⟩
    · split
      · rename_i hLast
        cases hEnd.symm.trans hLast
        rfl
      · rename_i hMore
        cases hEnd.symm.trans hMore
      · rename_i hNot _
        exact absurd hEnd (hNot _)
    · split
      · rename_i hLast
        cases hMark.symm.trans hLast
      · rename_i hMore
        cases hMark.symm.trans hMore
        rw [hItems]
      · rename_i hNot
        exact absurd hMark (hNot _)

/-- The name of a member, and the text behind its colon. -/
def Named (s : List Char) (name : Value) (valued : List Char) : Prop :=
  ∃ opened t, skip s = '"' :: opened ∧ Gives (readString ('"' :: opened) opened) name t ∧
    skip t = ':' :: valued

/-- An object goes on with its closing brace, or with a comma and more members. -/
theorem gives_readMembers {name : Value} {valued : List Char} (hName : Named s name valued)
    (hValue : Gives (readValue (skip valued)) v t)
    (hNext : skip t = '}' :: rest ∧ all = setMember members name v ∨
      ∃ more, skip t = ',' :: more ∧ Gives (readMembers (setMember members name v) more) all rest) :
    Gives (readMembers members s) all rest := by
  obtain ⟨opened, named, hOpened, ⟨hNamed, hName⟩, hColon⟩ := hName
  obtain ⟨hShort, hValue⟩ := hValue
  have hOpenedShort := length_after_skip hOpened
  have hValuedShort := length_after_skip hColon
  have hSkip := length_skip_le valued
  have hRest : rest.length < t.length := by
    rcases hNext with ⟨hEnd, _⟩ | ⟨more, hMark, hMembers, _⟩
    · exact length_after_skip hEnd
    · exact Nat.lt_trans hMembers (length_after_skip hMark)
  refine ⟨by omega, ?_⟩
  rw [readMembers]
  split
  · rename_i hQuote
    cases hOpened.symm.trans hQuote
    split
    · rename_i hFault
      cases hName.symm.trans hFault
    · rename_i hFound
      cases hName.symm.trans hFound
      split
      · rename_i hMark
        cases hColon.symm.trans hMark
        split
        · rename_i hFault
          cases hValue.symm.trans hFault
        · rename_i hFound
          cases hValue.symm.trans hFound
          rcases hNext with ⟨hEnd, rfl⟩ | ⟨more, hMark, _, hMembers⟩
          · split
            · rename_i hLast
              cases hEnd.symm.trans hLast
              rfl
            · rename_i hMore
              cases hEnd.symm.trans hMore
            · rename_i hNot _
              exact absurd hEnd (hNot _)
          · split
            · rename_i hLast
              cases hMark.symm.trans hLast
            · rename_i hMore
              cases hMark.symm.trans hMore
              rw [hMembers]
            · rename_i hNot
              exact absurd hMark (hNot _)
      · rename_i hNot
        exact absurd hColon (hNot _)
  · rename_i hNot
    exact absurd hOpened (hNot _)

theorem gives_readValue_text {opened : List Char} (h : Gives (readString ('"' :: opened) opened) v rest) :
    Gives (readValue ('"' :: opened)) v rest := by
  obtain ⟨hShort, hText⟩ := h
  refine ⟨Nat.lt_succ_of_lt hShort, ?_⟩
  rw [readValue, hText]

theorem gives_readValue_nil (hEnd : skip s = ']' :: rest) : Gives (readValue ('[' :: s)) (.list []) rest := by
  refine ⟨Nat.lt_succ_of_lt (length_after_skip hEnd), ?_⟩
  rw [readValue]
  split
  · rename_i hMark
    cases hEnd.symm.trans hMark
    rfl
  · rename_i hNot
    exact absurd hEnd (hNot _)

theorem gives_readValue_empty (hEnd : skip s = '}' :: rest) :
    Gives (readValue ('\x7b' :: s)) (.map []) rest := by
  refine ⟨Nat.lt_succ_of_lt (length_after_skip hEnd), ?_⟩
  rw [readValue]
  split
  · rename_i hMark
    cases hEnd.symm.trans hMark
    rfl
  · rename_i hNot
    exact absurd hEnd (hNot _)

theorem gives_readValue_list (hSome : ∀ more, skip s ≠ ']' :: more) (h : Gives (readItems s) items rest) :
    Gives (readValue ('[' :: s)) (.list items) rest := by
  obtain ⟨hShort, hItems⟩ := h
  refine ⟨Nat.lt_succ_of_lt hShort, ?_⟩
  rw [readValue]
  split
  · rename_i hMark
    exact absurd hMark (hSome _)
  · rw [hItems]

theorem gives_readValue_map (hSome : ∀ more, skip s ≠ '}' :: more)
    (h : Gives (readMembers [] s) members rest) : Gives (readValue ('\x7b' :: s)) (.map members) rest := by
  obtain ⟨hShort, hMembers⟩ := h
  refine ⟨Nat.lt_succ_of_lt hShort, ?_⟩
  rw [readValue]
  split
  · rename_i hMark
    exact absurd hMark (hSome _)
  · rw [hMembers]

theorem gives_readValue_atom (hText : ∀ c ∈ s.head?, c ≠ '"' ∧ c ≠ '[' ∧ c ≠ '\x7b')
    (h : Gives (readAtom s) v rest) : Gives (readValue s) v rest := by
  obtain ⟨hShort, hAtom⟩ := h
  refine ⟨hShort, ?_⟩
  rw [readValue, hAtom]
  · rintro more rfl
    exact (hText _ rfl).1 rfl
  · rintro more rfl
    exact (hText _ rfl).2.1 rfl
  · rintro more rfl
    exact (hText _ rfl).2.2 rfl

/-! Where a value begins -/

/-- Characters that begin no value, but that can stand where one is looked for. -/
def besides : List Char := [' ', '\t', '\n', '\r', ']', '\uFEFF']

theorem atom_besides {c : Char} (h : c ∈ besides) (s : List Char) : ∃ e, atom (c :: s) = .error e := by
  simp only [besides, List.mem_cons, List.not_mem_nil, or_false] at h
  rcases h with rfl | rfl | rfl | rfl | rfl | rfl <;> exact ⟨_, rfl⟩

theorem notMem_besides (h : Gives (readValue s) v rest) : ∃ c more, s = c :: more ∧ c ∉ besides := by
  obtain ⟨hShort, hValue⟩ := h
  cases s with
  | nil => cases hShort
  | cons c more =>
    refine ⟨c, more, rfl, fun hMem => ?_⟩
    obtain ⟨e, hAtom⟩ := atom_besides hMem more
    have hFault : readAtom (c :: more) = .error e := by
      unfold readAtom
      split
      · rename_i hFault
        exact congrArg Except.error (Except.error.inj (hFault.symm.trans hAtom))
      · rename_i hFound
        cases hAtom.symm.trans hFound
    rw [readValue, hFault] at hValue
    · cases hValue
    all_goals
      rintro rest ⟨⟩
      exact absurd hMem (by decide)

theorem skip_of_gives (h : Gives (readValue s) v rest) : skip s = s := by
  obtain ⟨c, more, rfl, hMem⟩ := notMem_besides h
  refine List.dropWhile_cons_of_neg fun hSpace => hMem ?_
  simp only [isSpace, Bool.or_eq_true, beq_iff_eq] at hSpace
  rcases hSpace with ((rfl | rfl) | rfl) | rfl <;> decide

/-! Values -/

/-- Whatever follows it, a written value is read, and no more than that. -/
def ReadsBack (v : Value) : Prop :=
  ∀ (indent : Indent) (rest : List Char), EndsValue rest →
    Gives (readValue (write indent v ++ rest)) v rest

theorem readsBack_text (s : String) : ReadsBack (.text s) := by
  intro indent rest _
  rw [write, writeString, List.cons_append, List.cons_append, List.append_assoc]
  exact gives_readValue_text (gives_readString s)

theorem readsBack_null : ReadsBack .null := by
  intro indent rest _
  have hAtom : atom ("null".toList ++ rest) = .ok (.null, rest) := rfl
  refine gives_readValue_atom ?_ (gives_readAtom hAtom ?_)
  · rintro c ⟨⟩
    decide
  · rw [List.length_append]
    exact Nat.lt_add_of_pos_left (Nat.zero_lt_succ 3)

theorem readsBack_int {n : Int} (h : n.natAbs < Nat.pow 10 Text.digitLimit) : ReadsBack (.int n) := by
  intro indent rest hRest
  have hAtom := atom_writeInt h hRest
  obtain ⟨c, more, hText, hFirst⟩ := exists_first n
  have hMarks : ∀ d ∈ ['"', '[', '\x7b'], ¬ (d.isDigit = true ∨ d = '-') := by decide
  rw [write]
  refine gives_readValue_atom ?_ (gives_readAtom hAtom ?_)
  · rw [hText]
    rintro d ⟨⟩
    refine ⟨?_, ?_, ?_⟩ <;>
    · rintro rfl
      exact hMarks _ (by decide) hFirst
  · rw [hText]
    simp only [List.cons_append, List.length_cons, List.length_append]
    omega

theorem separator_eq (indent : Indent) :
    ∃ gap, separator indent = ',' :: gap ∧ ∀ c ∈ gap, isSpace c = true := by
  cases indent with
  | none => exact ⟨[' '], rfl, by decide⟩
  | some depth => exact ⟨_, rfl, isSpace_of_mem_lineBreak (some depth)⟩

theorem endsValue_of_spaces {gap : List Char} {mark : Char} (hGap : ∀ c ∈ gap, isSpace c = true)
    (hMark : (mark == ',' || mark == ']' || mark == '}' || isSpace mark) = true) :
    EndsValue (gap ++ mark :: rest) := by
  cases gap with
  | nil =>
    rintro c ⟨⟩
    exact hMark
  | cons d gap =>
    rintro c ⟨⟩
    rw [hGap d List.mem_cons_self, Bool.or_true]

/-- What stands behind an item or a member: the others of the list or object, and its end. -/
theorem skip_mark {gap : List Char} {mark : Char} (hGap : ∀ c ∈ gap, isSpace c = true)
    (hMark : isSpace mark = false) (s : List Char) : skip (gap ++ mark :: s) = mark :: s := by
  rw [skip_append hGap]
  exact List.dropWhile_cons_of_neg (by simp [hMark])

theorem skip_comma (s : List Char) : skip (',' :: s) = ',' :: s := rfl

theorem endsValue_comma (s : List Char) : EndsValue (',' :: s) := by
  rintro c ⟨⟩
  rfl

section

variable {indent : Indent} {ending : List Char} (hEnding : ∀ c ∈ ending, isSpace c = true)

include hEnding

theorem endsValue_writeItems (items : List Value) :
    EndsValue (writeItems indent items ++ (ending ++ ']' :: rest)) := by
  cases items with
  | nil => exact endsValue_of_spaces hEnding rfl
  | cons w items =>
    obtain ⟨blank, hSeparator, _⟩ := separator_eq indent
    rw [writeItems, hSeparator]
    exact endsValue_comma _

theorem gives_readItems_written (others : List Value) :
    ∀ v gap, (∀ w ∈ v :: others, ReadsBack w) → (∀ c ∈ gap, isSpace c = true) →
      Gives (readItems (gap ++ (write indent v ++ (writeItems indent others ++ (ending ++ ']' :: rest)))))
        (v :: others) rest := by
  induction others with
  | nil =>
    intro v gap hItems hGap
    have hEnds : EndsValue (writeItems indent [] ++ (ending ++ ']' :: rest)) :=
      endsValue_writeItems hEnding []
    have hValue := hItems v List.mem_cons_self indent _ hEnds
    refine gives_readItems ?_ (Or.inl ⟨skip_mark hEnding rfl rest, rfl⟩)
    rw [skip_append hGap, skip_of_gives hValue]
    exact hValue
  | cons w others ih =>
    intro v gap hItems hGap
    obtain ⟨blank, hSeparator, hBlank⟩ := separator_eq indent
    have hOthers := ih w blank (fun x hMem => hItems x (List.mem_cons_of_mem v hMem)) hBlank
    have hMore : skip (writeItems indent (w :: others) ++ (ending ++ ']' :: rest)) =
        ',' :: (blank ++ (write indent w ++ (writeItems indent others ++ (ending ++ ']' :: rest)))) := by
      rw [writeItems, hSeparator]
      simp only [List.cons_append, List.append_assoc]
      exact skip_comma _
    have hEnds : EndsValue (writeItems indent (w :: others) ++ (ending ++ ']' :: rest)) :=
      endsValue_writeItems hEnding (w :: others)
    have hValue := hItems v List.mem_cons_self indent _ hEnds
    refine gives_readItems ?_ (Or.inr ⟨_, hMore, hOthers⟩)
    rw [skip_append hGap, skip_of_gives hValue]
    exact hValue

end

theorem readsBack_list (h : ∀ v ∈ items, ReadsBack v) : ReadsBack (.list items) := by
  intro indent rest _
  cases items with
  | nil =>
    rw [write]
    exact gives_readValue_nil rfl
  | cons v others =>
    let within := writeItems (deeper indent) others ++ (lineBreak indent ++ ']' :: rest)
    have hText : write indent (.list (v :: others)) ++ rest =
        '[' :: (lineBreak (deeper indent) ++ (write (deeper indent) v ++ within)) := by
      rw [write]
      simp only [within, List.cons_append, List.append_assoc, List.nil_append]
    have hEnding := isSpace_of_mem_lineBreak indent
    have hGap := isSpace_of_mem_lineBreak (deeper indent)
    have hItems : Gives (readItems (lineBreak (deeper indent) ++ (write (deeper indent) v ++ within)))
        (v :: others) rest := gives_readItems_written hEnding others v _ h hGap
    have hValue := h v List.mem_cons_self (deeper indent) within (endsValue_writeItems hEnding others)
    rw [hText]
    refine gives_readValue_list (fun more hMark => ?_) hItems
    rw [skip_append hGap, skip_of_gives hValue] at hMark
    obtain ⟨c, tail, hFirst, hMem⟩ := notMem_besides hValue
    rw [hFirst] at hMark
    rw [(List.cons.inj hMark).1] at hMem
    exact hMem (by decide)

/-! Objects -/

/-- The members of an object, by the texts that are their keys. -/
def keyed (entries : List (String × Value)) : List (Value × Value) :=
  entries.map fun (key, v) => (.text key, v)

theorem setMember_keyed {done : List (String × Value)} {key : String} (h : key ∉ done.map (·.1))
    (v : Value) : setMember (keyed done) (.text key) v = keyed (done ++ [(key, v)]) := by
  unfold setMember
  rw [if_neg]
  · simp [keyed]
  · simp only [keyed, List.any_map, List.any_eq_true, Function.comp_apply, beq_iff_eq]
    rintro ⟨⟨other, w⟩, hMem, rfl⟩
    exact h (List.mem_map_of_mem hMem)

theorem notMem_of_nodup {done entries : List (String × Value)} {key : String}
    (h : ((done ++ (key, v) :: entries).map (·.1)).Nodup) : key ∉ done.map (·.1) := by
  rw [List.map_append, List.nodup_append] at h
  intro hMem
  exact h.2.2 key hMem key List.mem_cons_self rfl

theorem skip_space (s : List Char) : skip (' ' :: s) = skip s := rfl

theorem named_writeKey {gap : List Char} (hGap : ∀ c ∈ gap, isSpace c = true) (key : String)
    (s : List Char) : Named (gap ++ (writeKey (.text key) ++ s)) (.text key) (' ' :: s) := by
  refine ⟨key.toList.flatMap escape ++ '"' :: ':' :: ' ' :: s, ':' :: ' ' :: s, ?_,
    gives_readString key, rfl⟩
  rw [skip_append hGap, writeKey, writeString]
  simp only [List.cons_append, List.append_assoc, List.nil_append]
  rfl

section

variable {indent : Indent} {ending : List Char} (hEnding : ∀ c ∈ ending, isSpace c = true)

include hEnding

theorem endsValue_writeMembers (entries : List (String × Value)) :
    EndsValue (writeMembers indent (keyed entries) ++ (ending ++ '}' :: rest)) := by
  cases entries with
  | nil => exact endsValue_of_spaces hEnding rfl
  | cons entry entries =>
    obtain ⟨blank, hSeparator, _⟩ := separator_eq indent
    rw [keyed, List.map_cons, writeMembers, hSeparator]
    exact endsValue_comma _

theorem gives_readMembers_written (entries : List (String × Value)) :
    ∀ done key v gap, (∀ entry ∈ (key, v) :: entries, ReadsBack entry.2) →
      ((done ++ (key, v) :: entries).map (·.1)).Nodup → (∀ c ∈ gap, isSpace c = true) →
      Gives (readMembers (keyed done) (gap ++ (writeKey (.text key) ++ (write indent v ++
        (writeMembers indent (keyed entries) ++ (ending ++ '}' :: rest))))))
        (keyed (done ++ (key, v) :: entries)) rest := by
  induction entries with
  | nil =>
    intro done key v gap hValues hKeys hGap
    have hEnds : EndsValue (writeMembers indent (keyed []) ++ (ending ++ '}' :: rest)) :=
      endsValue_writeMembers hEnding []
    have hValue := hValues (key, v) List.mem_cons_self indent _ hEnds
    refine gives_readMembers (named_writeKey hGap key _) ?_
      (Or.inl ⟨skip_mark hEnding rfl rest, (setMember_keyed (notMem_of_nodup hKeys) v).symm⟩)
    rw [skip_space, skip_of_gives hValue]
    exact hValue
  | cons next entries ih =>
    intro done key v gap hValues hKeys hGap
    obtain ⟨blank, hSeparator, hBlank⟩ := separator_eq indent
    have hEnds : EndsValue (writeMembers indent (keyed (next :: entries)) ++ (ending ++ '}' :: rest)) :=
      endsValue_writeMembers hEnding (next :: entries)
    have hValue := hValues (key, v) List.mem_cons_self indent _ hEnds
    have hSplit : done ++ [(key, v)] ++ next :: entries = done ++ (key, v) :: next :: entries := by simp
    have hOthers := ih (done ++ [(key, v)]) next.1 next.2 blank
      (fun entry hMem => hValues entry (List.mem_cons_of_mem _ hMem)) (hSplit ▸ hKeys) hBlank
    rw [hSplit, ← setMember_keyed (notMem_of_nodup hKeys)] at hOthers
    have hMore : skip (writeMembers indent (keyed (next :: entries)) ++ (ending ++ '}' :: rest)) =
        ',' :: (blank ++ (writeKey (.text next.1) ++ (write indent next.2 ++
          (writeMembers indent (keyed entries) ++ (ending ++ '}' :: rest))))) := by
      rw [keyed, List.map_cons, writeMembers, hSeparator]
      simp only [List.cons_append, List.append_assoc]
      exact skip_comma _
    refine gives_readMembers (named_writeKey hGap key _) ?_ (Or.inr ⟨_, hMore, hOthers⟩)
    rw [skip_space, skip_of_gives hValue]
    exact hValue

end

/-- An object with different keys is read back if the values of its members are. -/
theorem readsBack_map {entries : List (String × Value)} (hKeys : (entries.map (·.1)).Nodup)
    (h : ∀ entry ∈ entries, ReadsBack entry.2) : ReadsBack (.map (keyed entries)) := by
  intro indent rest _
  rcases entries with _ | ⟨⟨key, v⟩, others⟩
  · rw [keyed, List.map_nil, write]
    exact gives_readValue_empty rfl
  let within := write (deeper indent) v ++
    (writeMembers (deeper indent) (keyed others) ++ (lineBreak indent ++ '}' :: rest))
  have hText : write indent (.map (keyed ((key, v) :: others))) ++ rest =
      '\x7b' :: (lineBreak (deeper indent) ++ (writeKey (.text key) ++ within)) := by
    rw [keyed, List.map_cons, write]
    simp only [within, keyed, List.cons_append, List.append_assoc, List.nil_append]
  have hGap := isSpace_of_mem_lineBreak (deeper indent)
  have hMembers : Gives (readMembers (keyed []) (lineBreak (deeper indent) ++ (writeKey (.text key) ++ within)))
      (keyed ((key, v) :: others)) rest :=
    gives_readMembers_written (isSpace_of_mem_lineBreak indent) others [] key v _ h hKeys hGap
  rw [hText]
  refine gives_readValue_map (fun more hMark => ?_) hMembers
  obtain ⟨opened, _, hOpened, _⟩ := named_writeKey hGap key within
  cases hOpened.symm.trans hMark

/-! Whole texts -/

theorem read_of_gives (hValue : Gives (readValue s) v t) (hEnd : skip t = []) : read s = .ok v := by
  obtain ⟨c, more, hText, hMem⟩ := notMem_besides hValue
  rw [← skip_of_gives hValue] at hValue
  obtain ⟨hShort, hRead⟩ := hValue
  unfold read
  split
  · rename_i hMark
    rw [(List.cons.inj hText).1.symm] at hMem
    exact absurd (by decide) hMem
  · rw [hRead]
    simp only [bind, Except.bind, hEnd]
    rfl

theorem read_append_of_readsBack {ending : List Char} (h : ReadsBack v) (indent : Indent)
    (hEnding : ∀ c ∈ ending, isSpace c = true) : read (write indent v ++ ending) = .ok v := by
  have hEnds : EndsValue ending := by
    intro c hHead
    rw [hEnding c (List.mem_of_mem_head? hHead), Bool.or_true]
  have hSkip : skip ending = [] := by
    have hAll := skip_append hEnding []
    rw [List.append_nil] at hAll
    exact hAll
  exact read_of_gives (h indent ending hEnds) hSkip

theorem read_of_readsBack (h : ReadsBack v) (indent : Indent) : read (write indent v) = .ok v := by
  rw [← List.append_nil (write indent v)]
  exact read_append_of_readsBack h indent (by simp)

end PageCheck.Json
