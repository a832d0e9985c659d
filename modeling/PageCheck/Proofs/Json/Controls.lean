import PageCheck.Proofs.Json.Real

/-!
# Control characters in JSON

What is written for a value has line feeds in it and no other control character, whatever texts the
value holds. So neither a terminal nor the reader of a file takes anything of it for an order.
-/

namespace PageCheck.Json

set_option autoImplicit false

/-- No control character but the line feed. -/
def isShown (c : Char) : Bool := c == '\n' || 0x20 ≤ c.toNat

def Shown (s : List Char) : Prop := ∀ c ∈ s, isShown c = true

instance (s : List Char) : Decidable (Shown s) :=
  inferInstanceAs (Decidable (∀ c ∈ s, isShown c = true))

variable {s t : List Char} {c : Char}

theorem shown_nil : Shown [] := List.forall_mem_nil _

theorem shown_append_iff : Shown (s ++ t) ↔ Shown s ∧ Shown t := List.forall_mem_append

theorem shown_cons_iff : Shown (c :: s) ↔ isShown c = true ∧ Shown s := List.forall_mem_cons

theorem isShown_of_le (h : 0x20 ≤ c.toNat) : isShown c = true := by
  rw [isShown, decide_eq_true h, Bool.or_true]

theorem isShown_of_isNumeric (h : isNumeric c = true) : isShown c = true := by
  simp only [isNumeric, Bool.or_eq_true, beq_iff_eq] at h
  rcases h with (((hDigit | rfl) | rfl) | rfl) | rfl
  · simp only [Char.isDigit, Bool.and_eq_true, decide_eq_true_eq] at hDigit
    exact isShown_of_le (Nat.le_trans (by decide) hDigit.1)
  all_goals rfl

/-! Strings and numbers -/

theorem isShown_hexDigit : ∀ n : Nat, n < 16 → isShown (Text.hexDigit n) = true := by decide

theorem shown_hexDigits (width n : Nat) : Shown (Text.hexDigits width n) := by
  induction width generalizing n with
  | zero => exact shown_nil
  | succ width ih =>
    rw [Text.hexDigits, shown_append_iff, shown_cons_iff]
    exact ⟨ih (n / 16), isShown_hexDigit _ (Nat.mod_lt n (by decide)), shown_nil⟩

theorem shown_escape (c : Char) : Shown (escape c) := by
  unfold escape
  iterate 7
    split
    · decide
  split
  · exact shown_cons_iff.mpr ⟨rfl, shown_cons_iff.mpr ⟨rfl, shown_hexDigits 4 c.toNat⟩⟩
  · rename_i hSize
    exact shown_cons_iff.mpr ⟨isShown_of_le (Nat.not_lt.mp hSize), shown_nil⟩

theorem shown_escapeCode (c : Text.Code) : Shown (escapeCode c) := by
  cases c with
  | char c => exact shown_escape c
  | half index => exact shown_cons_iff.mpr ⟨rfl, shown_cons_iff.mpr ⟨rfl, shown_hexDigits 4 _⟩⟩

theorem shown_enclosed {α : Type} {escaped : α → List Char} (h : ∀ a, Shown (escaped a))
    (s : List α) : Shown ('"' :: s.flatMap escaped ++ ['"']) := by
  have hText : Shown (s.flatMap escaped) := by
    intro d hMem
    obtain ⟨a, _, hEscaped⟩ := List.mem_flatMap.mp hMem
    exact h a d hEscaped
  rw [List.cons_append, shown_cons_iff, shown_append_iff]
  exact ⟨rfl, hText, by decide⟩

theorem shown_writeString (s : List Char) : Shown (writeString s) := shown_enclosed shown_escape s

theorem shown_writeCodes (s : Text.Codes) : Shown (writeCodes s) := shown_enclosed shown_escapeCode s

theorem shown_writeInt (n : Int) : Shown (writeInt n) := by
  have hDigits (k : Nat) : Shown (Nat.toDigits 10 k) := fun c hMem =>
    isShown_of_isNumeric (isNumeric_of_isDigit (Text.isDigit_of_mem_toDigits hMem))
  cases n with
  | ofNat n => exact hDigits n
  | negSucc n =>
    rw [writeInt_negSucc]
    exact shown_cons_iff.mpr ⟨rfl, hDigits (n + 1)⟩

theorem toList_write_negative (layout : Layout) (m : Nat) (e : Int) :
    (layout.write (.finite true m e)).toList = '-' :: (layout.write (.finite false m e)).toList := by
  have hSign : "-".toList = ['-'] := rfl
  rw [Layout.write, Layout.write]
  by_cases hZero : m = 0
  · rw [if_pos hZero, if_pos hZero]
    rfl
  · rw [if_neg hZero, if_neg hZero, String.toList_append, String.toList_append, if_pos rfl,
      if_neg Bool.false_ne_true, String.toList_empty, List.nil_append, hSign, List.cons_append, List.nil_append]

theorem shown_printed (x : Binary64) : Shown (Layout.printed.write x).toList := by
  have hFinite (m : Nat) (e : Int) : Shown (Layout.printed.write (.finite false m e)).toList :=
    fun c hMem => isShown_of_isNumeric ((printed_write Layout.printed m e).isNumeric c hMem)
  cases x with
  | nan => decide
  | infinite negative => cases negative <;> decide
  | finite negative m e =>
    cases negative with
    | false => exact hFinite m e
    | true =>
      rw [toList_write_negative]
      exact shown_cons_iff.mpr ⟨rfl, hFinite m e⟩

/-! What stands between values -/

theorem shown_lineBreak (indent : Indent) : Shown (lineBreak indent) := by
  cases indent with
  | none => exact shown_nil
  | some depth =>
    refine shown_cons_iff.mpr ⟨rfl, fun c hMem => ?_⟩
    rw [List.eq_of_mem_replicate hMem]
    rfl

theorem shown_separator (indent : Indent) : Shown (separator indent) := by
  cases indent with
  | none => decide
  | some depth => exact shown_cons_iff.mpr ⟨rfl, shown_lineBreak (some depth)⟩

theorem shown_writeKey (v : Value) : Shown (writeKey v) := by
  have hColon : Shown [':', ' '] := by decide
  unfold writeKey
  split
  · exact shown_append_iff.mpr ⟨shown_writeString _, hColon⟩
  · exact hColon

/-! Values -/

mutual

theorem shown_write (indent : Indent) : ∀ v : Value, Shown (write indent v)
  | .bool true => (by decide : Shown "true".toList)
  | .bool false => (by decide : Shown "false".toList)
  | .int n => shown_writeInt n
  | .real x => shown_printed x
  | .text s => shown_writeString s.toList
  | .brokenText codes => shown_writeCodes codes
  | .list [] => (by decide : Shown ['[', ']'])
  | .list (v :: rest) => by
    rw [write]
    simp only [List.cons_append, shown_cons_iff, shown_append_iff]
    exact ⟨rfl, ⟨⟨⟨shown_lineBreak _, shown_write (deeper indent) v⟩,
      shown_writeItems (deeper indent) rest⟩, shown_lineBreak indent⟩, by decide⟩
  | .map [] => (by decide : Shown ['\x7b', '}'])
  | .map ((key, v) :: rest) => by
    rw [write]
    simp only [List.cons_append, shown_cons_iff, shown_append_iff]
    exact ⟨rfl, ⟨⟨⟨⟨shown_lineBreak _, shown_writeKey key⟩, shown_write (deeper indent) v⟩,
      shown_writeMembers (deeper indent) rest⟩, shown_lineBreak indent⟩, by decide⟩
  | .null | .bytes _ | .date _ | .moment _ | .set _ => (by decide : Shown "null".toList)

theorem shown_writeItems (indent : Indent) : ∀ items : List Value, Shown (writeItems indent items)
  | [] => shown_nil
  | v :: rest => by
    rw [writeItems, shown_append_iff, shown_append_iff]
    exact ⟨⟨shown_separator indent, shown_write indent v⟩, shown_writeItems indent rest⟩

theorem shown_writeMembers (indent : Indent) :
    ∀ members : List (Value × Value), Shown (writeMembers indent members)
  | [] => shown_nil
  | (key, v) :: rest => by
    rw [writeMembers]
    simp only [shown_append_iff]
    exact ⟨⟨⟨shown_separator indent, shown_writeKey key⟩, shown_write indent v⟩,
      shown_writeMembers indent rest⟩

end

end PageCheck.Json
