import Mathlib.Logic.Relation
import PageCheck.Html.Document.Build
import PageCheck.Proofs.Html.Refusal

/-!
# Pages that cannot be read

Reading a page is a run over its text from stage to stage, and every stage has at most one next. The
run fails exactly if it comes to a stage, outside of raw content, where refused markup is what is
left of the text.
-/

namespace PageCheck.Html

set_option autoImplicit false

namespace Token

structure Stage where
  /-- Whether it is in its second pass. -/
  final : Bool
  /-- The element with raw content it is inside of. -/
  raw : Option (List Char)
  rest : List Char

/-- One stage follows another by a step of its pass, or where the first pass ends. -/
inductive Next : Stage → Stage → Prop where
  | go {final : Bool} {raw raw' : Option (List Char)} {s rest : List Char} {tokens : List Token}
      (hText : s ≠ []) (hStep : step final raw s = .ok (.go tokens raw' rest)) :
      Next ⟨final, raw, s⟩ ⟨final, raw', rest⟩
  | again {raw : Option (List Char)} {s rest : List Char} {tokens : List Token}
      (hText : s ≠ []) (hStep : step false raw s = .ok (.halt tokens rest)) :
      Next ⟨false, raw, s⟩ ⟨true, raw, rest⟩

def Stage.IsRefused (stage : Stage) : Prop := stage.raw = none ∧ Refused stage.rest

def ReachesRefused (stage : Stage) : Prop :=
  ∃ last, Relation.ReflTransGen Next stage last ∧ last.IsRefused

theorem reachesRefused_iff_of_next {stage next : Stage} (hNext : ∀ other, Next stage other ↔ other = next) :
    ReachesRefused stage ↔ stage.IsRefused ∨ ReachesRefused next := by
  constructor
  · rintro ⟨last, hRun, hLast⟩
    rcases Relation.ReflTransGen.cases_head hRun with rfl | ⟨other, hFirst, hRest⟩
    · exact Or.inl hLast
    · rw [(hNext other).mp hFirst] at hRest
      exact Or.inr ⟨last, hRest, hLast⟩
  · rintro (hHere | ⟨last, hRun, hLast⟩)
    · exact ⟨stage, .refl, hHere⟩
    · exact ⟨last, .head ((hNext next).mpr rfl) hRun, hLast⟩

theorem reachesRefused_iff_of_last {stage : Stage} (hLast : ∀ other, ¬ Next stage other) :
    ReachesRefused stage ↔ stage.IsRefused := by
  constructor
  · rintro ⟨last, hRun, hRefused⟩
    rcases Relation.ReflTransGen.cases_head hRun with rfl | ⟨other, hFirst, _⟩
    · exact hRefused
    · exact absurd hFirst (hLast other)
  · intro hHere
    exact ⟨stage, .refl, hHere⟩

theorem next_iff_of_go {final : Bool} {raw raw' : Option (List Char)} {s rest : List Char}
    {tokens : List Token} (hText : s ≠ []) (hStep : step final raw s = .ok (.go tokens raw' rest))
    (other : Stage) : Next ⟨final, raw, s⟩ other ↔ other = ⟨final, raw', rest⟩ := by
  constructor
  · intro hNext
    cases hNext with
    | go _ hOther =>
      cases hStep.symm.trans hOther
      rfl
    | again _ hOther => cases hStep.symm.trans hOther
  · rintro rfl
    exact .go hText hStep

theorem next_iff_of_halt {raw : Option (List Char)} {s rest : List Char} {tokens : List Token}
    (hText : s ≠ []) (hStep : step false raw s = .ok (.halt tokens rest)) (other : Stage) :
    Next ⟨false, raw, s⟩ other ↔ other = ⟨true, raw, rest⟩ := by
  constructor
  · intro hNext
    cases hNext with
    | go _ hOther => cases hStep.symm.trans hOther
    | again _ hOther =>
      cases hStep.symm.trans hOther
      rfl
  · rintro rfl
    exact .again hText hStep

theorem not_next_of_halt {raw : Option (List Char)} {s rest : List Char} {tokens : List Token}
    (hStep : step true raw s = .ok (.halt tokens rest)) (other : Stage) :
    ¬ Next ⟨true, raw, s⟩ other := by
  intro hNext
  cases hNext with
  | go _ hOther => cases hStep.symm.trans hOther

theorem not_next_of_nil {final : Bool} {raw : Option (List Char)} {s : List Char} (h : s = [])
    (other : Stage) : ¬ Next ⟨final, raw, s⟩ other := by
  intro hNext
  cases hNext with
  | go hText _ => exact hText h
  | again hText _ => exact hText h

theorem not_isRefused_of_step {final : Bool} {raw : Option (List Char)} {s : List Char} {move : Move}
    (hStep : step final raw s = .ok move) : ¬ Stage.IsRefused ⟨final, raw, s⟩ := by
  intro hHere
  obtain ⟨fault, hError⟩ := step_fails_iff.mpr hHere
  cases hError.symm.trans hStep

theorem not_next_of_refused {stage : Stage} (h : stage.IsRefused) (other : Stage) :
    ¬ Next stage other := by
  intro hNext
  cases hNext with
  | go _ hStep => exact not_isRefused_of_step hStep h
  | again _ hStep => exact not_isRefused_of_step hStep h

theorem scan_fails_iff (final : Bool) (raw : Option (List Char)) (s : List Char) :
    (∃ fault, scan final raw s = .error fault) ↔ ReachesRefused ⟨final, raw, s⟩ := by
  fun_induction scan final raw s with
  | case1 final raw s hEmpty =>
    have hText : s = [] := List.isEmpty_iff.mp hEmpty
    refine iff_of_false ok_succeeds ?_
    rw [reachesRefused_iff_of_last (not_next_of_nil hText), Stage.IsRefused, hText]
    rintro ⟨_, hRefused⟩
    cases hRefused
  | case2 final raw s hText fault hStep =>
    have hHere : Stage.IsRefused ⟨final, raw, s⟩ := step_fails_iff.mp ⟨fault, hStep⟩
    rw [reachesRefused_iff_of_last (not_next_of_refused hHere)]
    exact iff_of_true ⟨fault, rfl⟩ hHere
  | case3 final raw s hText tokens raw' rest hStep hShort ih =>
    have hHere := not_isRefused_of_step hStep
    rw [map_fails_iff, ih, reachesRefused_iff_of_next (next_iff_of_go (by simpa using hText) hStep),
      or_iff_right hHere]
  | case4 raw s hText tokens rest hStep =>
    have hHere := not_isRefused_of_step hStep
    rw [reachesRefused_iff_of_last (not_next_of_halt hStep)]
    exact iff_of_false ok_succeeds hHere
  | case5 final raw s hText tokens rest hStep hFirst ih =>
    -- Only the first pass goes on where it ends: the second one takes up what is left.
    obtain rfl : final = false := Bool.eq_false_iff.mpr hFirst
    have hHere := not_isRefused_of_step hStep
    rw [map_fails_iff, ih, reachesRefused_iff_of_next (next_iff_of_halt (by simpa using hText) hStep),
      or_iff_right hHere]

theorem Next.suffix {a b : Stage} (h : Next a b) : b.rest <:+ a.rest := by
  cases h with
  | go _ hStep => exact Text.IsBehind.suffix (takes_step hStep)
  | again _ hStep => exact takes_step hStep

theorem suffix_of_run {a b : Stage} (h : Relation.ReflTransGen Next a b) : b.rest <:+ a.rest := by
  induction h with
  | refl => exact List.suffix_rfl
  | tail _ hNext ih => exact hNext.suffix.trans ih

end Token

/-- Whether reading a page comes to markup that ends it. -/
def IsRefused (content : String) : Prop := Token.ReachesRefused ⟨false, none, content.toList⟩

theorem Document.read_fails_iff {content : String} :
    (∃ fault, Document.read content = .error fault) ↔ IsRefused content := by
  rw [Document.read, map_fails_iff]
  exact Token.scan_fails_iff false none content.toList

theorem IsRefused.exists_suffix {content : String} (h : IsRefused content) :
    ∃ s, s <:+ content.toList ∧ Token.Refused s := by
  obtain ⟨stage, hRun, _, hHere⟩ := h
  exact ⟨stage.rest, Token.suffix_of_run hRun, hHere⟩

end PageCheck.Html
