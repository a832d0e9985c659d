import PageCheck.Predicate.Reader
import PageCheck.Proofs.Text.Decimal

/-!
# Raising errors

Parsing accepts what reading accepts. An error of reading is raised if all its numbers can be written,
and if one of them cannot be written nothing else is told of it.
-/

namespace PageCheck

set_option autoImplicit false

namespace ParseError

variable {e : ParseError}

theorem isWritable_iff : e.isWritable = true ↔
    (∀ n ∈ e.fault.number?, Text.isLong n = false) ∧ ∀ n ∈ e.line, Text.isLong n = false := by
  have hAny (number : Option Int) : (!number.any Text.isLong) = true ↔ ∀ n ∈ number, Text.isLong n = false := by
    cases number with
    | none => simp
    | some n => simp
  rw [isWritable, Bool.and_eq_true, hAny, hAny]

theorem raise_of_isWritable (h : e.isWritable = true) : e.raise = .error e := if_pos h

theorem raise_of_not_isWritable (h : ¬ e.isWritable = true) : e.raise = .longNumber := if_neg h

theorem raise_of_long {n : Int} (hNumber : n ∈ e.fault.number? ∨ n ∈ e.line) (h : Text.isLong n = true) :
    e.raise = .longNumber := by
  apply raise_of_not_isWritable
  intro hWritable
  obtain ⟨hFault, hLine⟩ := isWritable_iff.mp hWritable
  rcases hNumber with hMem | hMem
  · cases h.symm.trans (hFault n hMem)
  · cases h.symm.trans (hLine n hMem)

theorem raise_eq_error_iff {other : ParseError} :
    e.raise = .error other ↔ e.isWritable = true ∧ e = other := by
  by_cases h : e.isWritable = true
  · rw [raise_of_isWritable h, ParseStop.error.injEq, and_iff_right h]
  · rw [raise_of_not_isWritable h]
    exact iff_of_false nofun fun hOther => h hOther.1

variable {α : Type} {r : Except ParseError α}

theorem mapError_raise_eq_ok_iff {a : α} : r.mapError raise = .ok a ↔ r = .ok a := by
  cases r with
  | ok b => rw [Except.mapError, Except.ok.injEq, Except.ok.injEq]
  | error e => exact iff_of_false nofun nofun

theorem mapError_raise_eq_error_iff {stop : ParseStop} :
    r.mapError raise = .error stop ↔ ∃ e, r = .error e ∧ e.raise = stop := by
  cases r with
  | ok b => exact iff_of_false nofun nofun
  | error e =>
    constructor
    · intro h
      exact ⟨e, rfl, Except.error.inj h⟩
    · rintro ⟨_, ⟨⟩, h⟩
      exact congrArg Except.error h

end ParseError

theorem Predicate.parseElement_eq_ok_iff {limit : Int} {text : List Char} {p : Predicate} :
    parseElement limit text = .ok p ↔ readElement limit 0 text = .ok p :=
  ParseError.mapError_raise_eq_ok_iff

theorem Spec.parse_eq_ok_iff {limit : Int} {number : Option Int} {line : List Char} {spec : Spec} :
    parse limit number line = .ok spec ↔ read limit number line = .ok spec :=
  ParseError.mapError_raise_eq_ok_iff

end PageCheck
