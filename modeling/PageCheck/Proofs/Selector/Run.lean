import Mathlib.Computability.StateTransition
import PageCheck.Proofs.Selector.Escape

/-!
# The run of the reader over its tokens

While a list in parentheses is read, the lists around it wait. With these lists at hand the reader
is a machine that makes one move for each token. It comes to a number that cannot be read exactly if
its run comes to a token with such a number, or to the end of tokens that were cut off at one.
-/

namespace PageCheck.Selector

set_option autoImplicit false

open Text (Code Codes)
open Text.Codes (lowerBasic)

open StateTransition (Reaches)

/-- A list that waits for one inside of it, and what it makes of that. -/
structure Frame where
  kind : ListKind
  progress : Progress
  make : SelectorList → List Condition
  stop : Nat

/-- The list that is being read, the ones around it, innermost first, and the tokens to come. -/
structure Reading where
  kind : ListKind
  progress : Progress
  index : Nat
  frames : List Frame
  tokens : List Placed

namespace Reading

def next? : Reading → Option Reading
  | ⟨_, _, _, _, []⟩ => none
  | ⟨kind, p, index, frames, t :: rest⟩ =>
    match move kind p index t, frames with
    | .go next, _ => some ⟨kind, next, t.stop, frames, rest⟩
    | .enter inner make, _ => some ⟨inner, .start, t.stop, ⟨kind, p, make, t.stop⟩ :: frames, rest⟩
    | .leave list, f :: others => some ⟨f.kind, f.progress.add (f.make list), f.stop, others, rest⟩
    | _, _ => none

/-- The next token holds a number that cannot be read, or the tokens are cut off there at one. A
name that stands in a wrong place is not decoded. -/
def Overflows (fault : Option Fault) (r : Reading) : Prop :=
  match r.tokens with
  | [] => ∃ e ∈ fault, e.sort = .number
  | t :: _ => t.token.Overflows ∧ ¬ (t.token.isName = true ∧ r.progress.begun = true)

end Reading

/-- The reader of a selector comes to a number that cannot be read. -/
def HasBadNumber (selector : String) : Prop :=
  let found := tokens (sourceCodes selector)
  ∃ last, Reaches Reading.next? ⟨.outermost, .start, 0, [], found.list⟩ last ∧
    last.Overflows found.fault

namespace Move

def Overflows (m : Move) : Prop := ∃ e, m = stop e ∧ e.sort = .number

theorem overflows_stop {e : Fault} : (stop e).Overflows ↔ e.sort = .number := by
  constructor
  · rintro ⟨other, hStop, hSort⟩
    cases hStop
    exact hSort
  · intro hSort
    exact ⟨e, rfl, hSort⟩

theorem not_overflows_stop {e : Fault} (h : e.sort ≠ .number) : ¬ (stop e).Overflows :=
  fun hStop => h (overflows_stop.mp hStop)

theorem not_overflows_go {p : Progress} : ¬ (go p).Overflows := nofun

theorem not_overflows_enter {inner : ListKind} {make : SelectorList → List Condition} :
    ¬ (enter inner make).Overflows := nofun

theorem not_overflows_leave {list : SelectorList} : ¬ (leave list).Overflows := nofun

variable {α : Type} {next : α → Move} {x : Except Fault α}

theorem ofResult_overflows_iff {P Q : Prop} (h : FailsIf x P)
    (hNext : ∀ a, (next a).Overflows ↔ Q) : (ofResult next x).Overflows ↔ P ∨ Q := by
  cases hResult : x with
  | error e =>
    obtain ⟨hP, hSort⟩ := h.sort_of_error hResult
    exact iff_of_true (overflows_stop.mpr hSort) (Or.inl hP)
  | ok a => exact (hNext a).trans (or_iff_right (h.not_of_ok hResult)).symm

theorem ofResult_overflows_iff_of_not {P : Prop} (h : FailsIf x P)
    (hNext : ∀ a, ¬ (next a).Overflows) : (ofResult next x).Overflows ↔ P :=
  (ofResult_overflows_iff h fun a => iff_false_intro (hNext a)).trans (or_iff_left id)

theorem not_overflows_ofResult (h : ∀ e, x = .error e → e.sort ≠ .number)
    (hNext : ∀ a, ¬ (next a).Overflows) : ¬ (ofResult next x).Overflows := by
  cases hResult : x with
  | error e => exact not_overflows_stop (h e hResult)
  | ok a => exact hNext a

theorem not_overflows_ofName (known : String) (opened : Bool) (p : Progress) (start : Nat) :
    ¬ (ofName known opened p start).Overflows := by
  unfold ofName
  split
  · exact not_overflows_enter
  · exact not_overflows_go
  · split
    · exact not_overflows_enter
    · split <;> exact not_overflows_stop nofun

end Move

theorem sort_of_step {kind : ListKind} {index : Nat} {c : Code} {p : Progress} {e : Fault}
    (h : step kind index c p = .error e) : e.sort ≠ .number := by
  unfold step at h
  split at h
  · split at h
    · split at h
      · cases h
      · cases h
        exact nofun
    · split at h <;> cases h
  · split at h
    · split at h
      · cases h
      · split at h
        · cases h
          exact nofun
        · cases h
    · split at h
      · cases h
      · cases h
        exact nofun

theorem sort_of_close {kind : ListKind} {index : Nat} {p : Progress} {e : Fault}
    (h : close kind index p = .error e) : e.sort ≠ .number := by
  unfold close at h
  split at h
  · cases h
  · split at h
    · cases h
    · cases h
      exact nofun

theorem not_overflows_close {kind : ListKind} {p : Progress} {index start stop : Nat} :
    ¬ (move kind p index ⟨.close, start, stop⟩).Overflows := by
  unfold move
  dsimp only
  split
  · exact Move.not_overflows_stop nofun
  · split
    · exact Move.not_overflows_ofResult (fun _ => sort_of_close) fun _ => Move.not_overflows_leave
    · exact Move.not_overflows_stop nofun

theorem Move.not_overflows_ofPlace (sameName restricted : Bool) (p : Progress) (known : Codes)
    (formula : Option Int × Int) : ¬ (ofPlace sameName restricted p known formula).Overflows := by
  unfold ofPlace
  dsimp only
  split
  · exact not_overflows_enter
  · exact not_overflows_go

theorem move_overflows_iff {kind : ListKind} {p : Progress} {index : Nat} {t : Placed} :
    (move kind p index t).Overflows ↔
      t.token.Overflows ∧ ¬ (t.token.isName = true ∧ p.begun = true) := by
  obtain ⟨token, start, stop⟩ := t
  have hPlain (token : Token) (h : token.isPlain = true) :=
    Move.ofResult_overflows_iff_of_not (tokenConditions_failsIf p h) fun conditions =>
      Move.not_overflows_go (p := p.add conditions)
  match token with
  | .atRule => exact iff_of_false (Move.not_overflows_stop nofun) (fun h => h.1)
  | .pseudoElement => exact iff_of_false (Move.not_overflows_stop nofun) (fun h => h.1)
  | .close => exact iff_of_false not_overflows_close (fun h => h.1)
  | .combinator c =>
    refine iff_of_false ?_ (fun h => h.1)
    exact Move.not_overflows_ofResult (fun _ => sort_of_step) fun _ => Move.not_overflows_go
  | .direction _ => exact iff_of_false Move.not_overflows_go (fun h => h.1)
  | .custom name =>
    refine (Move.ofResult_overflows_iff_of_not (pseudoName_failsIf name) ?_).trans
      (and_iff_left nofun).symm
    exact fun known => Move.not_overflows_stop nofun
  | .pseudo name opened =>
    refine (Move.ofResult_overflows_iff_of_not (pseudoName_failsIf name) ?_).trans
      (and_iff_left nofun).symm
    exact fun known => Move.not_overflows_ofName _ _ _ _
  | .place name formula sameName restricted =>
    refine (Move.ofResult_overflows_iff (pseudoName_failsIf name) ?_).trans
      (and_iff_left nofun).symm
    exact fun known => Move.ofResult_overflows_iff_of_not (readFormula_failsIf _)
      (Move.not_overflows_ofPlace sameName restricted p known)
  | .name space name =>
    unfold move
    dsimp only
    split
    · rename_i hBegun
      exact iff_of_false (Move.not_overflows_stop nofun) (fun h => h.2 ⟨rfl, hBegun⟩)
    · rename_i hBegun
      exact (hPlain (.name space name) rfl).trans (and_iff_left fun h => hBegun h.2).symm
  | .nesting => exact (hPlain .nesting rfl).trans (and_iff_left nofun).symm
  | .identifier name => exact (hPlain (.identifier name) rfl).trans (and_iff_left nofun).symm
  | .className name => exact (hPlain (.className name) rfl).trans (and_iff_left nofun).symm
  | .attribute text => exact (hPlain (.attribute text) rfl).trans (and_iff_left nofun).symm
  | .contains name values =>
    exact (hPlain (.contains name values) rfl).trans (and_iff_left nofun).symm
  | .language values => exact (hPlain (.language values) rfl).trans (and_iff_left nofun).symm

namespace Move

/-- Only parentheses begin a list inside of another one, and only a list that they begin is ended
by one. -/
def Fits (opened : Bool) : Move → Prop
  | stop _ | go _ => True
  | enter inner _ => inner.opened = true
  | leave _ => opened = true

variable {opened : Bool}

theorem fits_ofResult {α : Type} {next : α → Move} {x : Except Fault α}
    (h : ∀ a, (next a).Fits opened) : (ofResult next x).Fits opened := by
  cases x with
  | error e => trivial
  | ok a => exact h a

theorem opened_of_ofName? {name : String} {inner : ListKind}
    (h : ListKind.ofName? name = some inner) : inner.opened = true := by
  unfold ListKind.ofName? at h
  split at h
  · cases h
    rfl
  · split at h
    · cases h
      rfl
    · split at h
      · cases h
        rfl
      · split at h
        · cases h
          rfl
        · cases h

theorem fits_ofName (known : String) (called : Bool) (p : Progress) (start : Nat) :
    (ofName known called p start).Fits opened := by
  unfold ofName
  split
  · rename_i inner hInner
    exact opened_of_ofName? hInner
  · trivial
  · split
    · rfl
    · split <;> trivial

theorem fits_ofPlace (sameName restricted : Bool) (p : Progress) (known : Codes)
    (formula : Option Int × Int) : (ofPlace sameName restricted p known formula).Fits opened := by
  unfold ofPlace
  dsimp only
  split
  · rfl
  · trivial

end Move

theorem move_fits (kind : ListKind) (p : Progress) (index : Nat) (t : Placed) :
    (move kind p index t).Fits kind.opened := by
  unfold move
  split
  · trivial
  · trivial
  · exact Move.fits_ofResult fun _ => trivial
  · split
    · trivial
    · split
      · rename_i hOpened
        exact Move.fits_ofResult fun _ => hOpened
      · trivial
  · exact Move.fits_ofResult fun _ => trivial
  · exact Move.fits_ofResult fun _ => Move.fits_ofName _ _ _ _
  · exact Move.fits_ofResult fun _ => Move.fits_ofResult fun _ => Move.fits_ofPlace _ _ _ _ _
  · split
    · trivial
    · exact Move.fits_ofResult fun _ => trivial
  · trivial
  · exact Move.fits_ofResult fun _ => trivial

namespace Reading

variable {kind : ListKind} {p : Progress} {index : Nat} {frames : List Frame} {t : Placed}
  {rest : List Placed}

theorem next?_of_go {q : Progress} (h : move kind p index t = .go q) :
    next? ⟨kind, p, index, frames, t :: rest⟩ = some ⟨kind, q, t.stop, frames, rest⟩ := by
  simp only [next?, h]

theorem next?_of_enter {inner : ListKind} {make : SelectorList → List Condition}
    (h : move kind p index t = .enter inner make) :
    next? ⟨kind, p, index, frames, t :: rest⟩ =
      some ⟨inner, .start, t.stop, ⟨kind, p, make, t.stop⟩ :: frames, rest⟩ := by
  simp only [next?, h]

theorem next?_of_leave {list : SelectorList} {f : Frame} (h : move kind p index t = .leave list) :
    next? ⟨kind, p, index, f :: frames, t :: rest⟩ =
      some ⟨f.kind, f.progress.add (f.make list), f.stop, frames, rest⟩ := by
  simp only [next?, h]

theorem next?_of_stop {e : Fault} (h : move kind p index t = .stop e) :
    next? ⟨kind, p, index, frames, t :: rest⟩ = none := by
  simp only [next?, h]

theorem next?_of_overflows {fault : Option Fault} {r : Reading} (h : r.Overflows fault) :
    r.next? = none := by
  obtain ⟨kind, p, index, frames, tokens⟩ := r
  cases tokens with
  | nil => rfl
  | cons t rest =>
    obtain ⟨e, hStop, _⟩ := move_overflows_iff.mpr h
    exact next?_of_stop hStop

end Reading

variable {fault : Option Fault} {kind : ListKind} {p : Progress} {index : Nat}
  {tokens others : List Placed} {list : SelectorList}

theorem length_readList (h : readList fault kind p index tokens = .ok (list, others)) :
    others.length ≤ tokens.length := by
  fun_induction readList fault kind p index tokens generalizing list others with
  | case1 => cases h
  | case2 => cases h
  | case3 kind p index =>
    cases hClose : close kind index p with
    | error e =>
      rw [hClose] at h
      cases h
    | ok found =>
      rw [hClose] at h
      cases h
      exact Nat.le_refl _
  | case4 => cases h
  | case5 kind p index t rest next hMove ih => exact Nat.le_succ_of_le (ih h)
  | case6 kind p index t rest found hMove =>
    cases h
    exact Nat.le_succ _
  | case7 => cases h
  | case8 kind p index t rest inner make hMove found behind hInner hLength ihInner ih =>
    exact Nat.le_succ_of_le (Nat.le_trans (ih h) hLength)
  | case9 => cases h

/-- A list in parentheses is read up to its end, and the list around it goes on behind it. -/
theorem reaches_of_readList (h : readList fault kind p index tokens = .ok (list, others))
    (hOpened : kind.opened = true) (f : Frame) (frames : List Frame) :
    Reaches Reading.next? ⟨kind, p, index, f :: frames, tokens⟩
      ⟨f.kind, f.progress.add (f.make list), f.stop, frames, others⟩ := by
  fun_induction readList fault kind p index tokens generalizing list others f frames with
  | case1 => cases h
  | case2 => cases h
  | case3 kind p index _ hClosed => exact absurd hOpened hClosed
  | case4 => cases h
  | case5 kind p index t rest next hMove ih =>
    exact (ih h hOpened f frames).head (Reading.next?_of_go hMove)
  | case6 kind p index t rest found hMove =>
    cases h
    exact .single (Reading.next?_of_leave hMove)
  | case7 => cases h
  | case8 kind p index t rest inner make hMove found behind hInner hLength ihInner ih =>
    have hFits := move_fits kind p index t
    rw [hMove] at hFits
    -- This list waits on top of the others until the inner one is read, and then goes on.
    have hWithin := ihInner hInner hFits ⟨kind, p, make, t.stop⟩ (f :: frames)
    exact (hWithin.trans (ih h hOpened f frames)).head (Reading.next?_of_enter hMove)
  | case9 => cases h

/-- The end of a run, at which it is known whether a number was to blame. -/
structure Reading.IsLast (fault : Option Fault) (overflows : Prop) (r : Reading) : Prop where
  next : r.next? = none
  overflows_iff : r.Overflows fault ↔ overflows

theorem reaches_of_readList_error {e : Fault} (h : readList fault kind p index tokens = .error e)
    (frames : List Frame) : ∃ last, Reaches Reading.next? ⟨kind, p, index, frames, tokens⟩ last ∧
      last.IsLast fault (e.sort = .number) := by
  -- The reader has the lists around in its calls only, so those that wait here are arbitrary.
  fun_induction readList fault kind p index tokens generalizing e frames with
  | case1 kind p index other hFault =>
    cases h
    exact ⟨_, .refl, rfl, by simp [Reading.Overflows, hFault]⟩
  | case2 kind p index hFault hOpened =>
    cases h
    exact ⟨_, .refl, rfl, by simp [Reading.Overflows, hFault, Fault.sort]⟩
  | case3 kind p index hFault hClosed =>
    cases hClose : close kind index p with
    | error other =>
      rw [hClose] at h
      cases h
      have hSort := sort_of_close hClose
      exact ⟨_, .refl, rfl, by simp [Reading.Overflows, hFault, hSort]⟩
    | ok found =>
      rw [hClose] at h
      cases h
  | case4 kind p index t rest other hMove =>
    cases h
    refine ⟨_, .refl, Reading.next?_of_stop hMove, ?_⟩
    rw [← Move.overflows_stop, ← hMove, move_overflows_iff]
    exact Iff.rfl
  | case5 kind p index t rest next hMove ih =>
    obtain ⟨last, hRun, hLast⟩ := ih h frames
    exact ⟨last, hRun.head (Reading.next?_of_go hMove), hLast⟩
  | case6 kind p index t rest found hMove => cases h
  | case7 kind p index t rest inner make hMove other hInner ih =>
    cases h
    obtain ⟨last, hRun, hLast⟩ := ih hInner (⟨kind, p, make, t.stop⟩ :: frames)
    exact ⟨last, hRun.head (Reading.next?_of_enter hMove), hLast⟩
  | case8 kind p index t rest inner make hMove found behind hInner hLength ihInner ih =>
    have hFits := move_fits kind p index t
    rw [hMove] at hFits
    have hWithin := reaches_of_readList hInner hFits ⟨kind, p, make, t.stop⟩ frames
    obtain ⟨last, hRun, hLast⟩ := ih h frames
    exact ⟨last, (hWithin.trans hRun).head (Reading.next?_of_enter hMove), hLast⟩
  | case9 kind p index t rest inner make hMove found behind hInner hLength ihInner =>
    exact absurd (length_readList hInner) hLength

theorem reaches_of_readList_ok (h : readList fault kind p index tokens = .ok (list, others))
    (hOpened : kind.opened = false) (frames : List Frame) :
    ∃ last, Reaches Reading.next? ⟨kind, p, index, frames, tokens⟩ last ∧
      last.IsLast fault False := by
  fun_induction readList fault kind p index tokens generalizing list others frames with
  | case1 => cases h
  | case2 => cases h
  | case3 kind p index hFault => exact ⟨_, .refl, rfl, by simp [Reading.Overflows, hFault]⟩
  | case4 => cases h
  | case5 kind p index t rest next hMove ih =>
    obtain ⟨last, hRun, hLast⟩ := ih h hOpened frames
    exact ⟨last, hRun.head (Reading.next?_of_go hMove), hLast⟩
  | case6 kind p index t rest found hMove =>
    -- No parenthesis ends a list that none has begun.
    have hFits := move_fits kind p index t
    rw [hMove] at hFits
    exact absurd hFits (Bool.eq_false_iff.mp hOpened)
  | case7 => cases h
  | case8 kind p index t rest inner make hMove found behind hInner hLength ihInner ih =>
    have hFits := move_fits kind p index t
    rw [hMove] at hFits
    have hWithin := reaches_of_readList hInner hFits ⟨kind, p, make, t.stop⟩ frames
    obtain ⟨last, hRun, hLast⟩ := ih h hOpened frames
    exact ⟨last, (hWithin.trans hRun).head (Reading.next?_of_enter hMove), hLast⟩
  | case9 => cases h

theorem exists_overflows_iff_of_isLast {start last : Reading} {overflows : Prop}
    (hRun : Reaches Reading.next? start last) (hLast : last.IsLast fault overflows) :
    (∃ other, Reaches Reading.next? start other ∧ other.Overflows fault) ↔ overflows := by
  rw [← hLast.overflows_iff]
  constructor
  · rintro ⟨other, hOther, hOverflows⟩
    -- A run has one end, and it ends where a number cannot be read.
    have hEnd := StateTransition.mem_eval.mpr ⟨hRun, hLast.next⟩
    have hOtherEnd := StateTransition.mem_eval.mpr ⟨hOther, Reading.next?_of_overflows hOverflows⟩
    rwa [Part.mem_unique hEnd hOtherEnd]
  · intro hOverflows
    exact ⟨last, hRun, hOverflows⟩

/-- A selector cannot be read because of a number exactly if the run of the reader comes to one. -/
theorem read_number_iff {selector : String} :
    (∃ fault, read selector = .error fault ∧ fault.sort = .number) ↔ HasBadNumber selector := by
  rw [read, HasBadNumber]
  cases hResult : readList (tokens (sourceCodes selector)).fault .outermost .start 0
      (tokens (sourceCodes selector)).list with
  | error e =>
    obtain ⟨last, hRun, hLast⟩ := reaches_of_readList_error hResult []
    rw [exists_overflows_iff_of_isLast hRun hLast]
    constructor
    · rintro ⟨fault, hError, hSort⟩
      cases hError
      exact hSort
    · intro hSort
      exact ⟨e, rfl, hSort⟩
  | ok found =>
    obtain ⟨last, hRun, hLast⟩ := reaches_of_readList_ok hResult rfl []
    rw [exists_overflows_iff_of_isLast hRun hLast]
    refine iff_of_false ?_ id
    rintro ⟨fault, hError, _⟩
    cases hError

end PageCheck.Selector
