import PageCheck.Proofs.Predicate.Reading

/-!
# Calls and the lists of their arguments

A call has any name and any arguments that the commas and the blanks around them leave whole, and it
can be written with such blanks or without. The one thing that cannot be written without them is a
single empty argument: something has to stand between the parentheses.
-/

namespace PageCheck.Call

set_option autoImplicit false

open Text (Margin IsTrimmed)

structure IsArgument (arg : List Char) : Prop where
  comma : ',' ∉ arg
  trimmed : IsTrimmed arg

instance decidableIsArgument (arg : List Char) : Decidable (IsArgument arg) :=
  decidable_of_iff (',' ∉ arg ∧ IsTrimmed arg)
    ⟨fun h => ⟨h.1, h.2⟩, fun h => ⟨h.comma, h.trimmed⟩⟩

structure IsProper (x : Call) : Prop where
  name_ne_nil : x.name ≠ []
  nameChars : ∀ c ∈ x.name, isNameChar c = true
  args_ne_nil : x.args ≠ []
  arguments : ∀ arg ∈ x.args, IsArgument arg

/-- An argument with blanks around it. -/
structure Padded where
  margin : Margin
  arg : List Char

def Padded.chars (x : Padded) : List Char := x.margin.around x.arg

def listed (args : List Padded) : List Char := [','].intercalate (args.map Padded.chars)

/-- The call without any blanks around its arguments. -/
def text (x : Call) : List Char := written x.name ([','].intercalate x.args)

theorem listed_plain (args : List (List Char)) :
    listed (args.map (Padded.mk Margin.none)) = [','].intercalate args := by
  have hPlain : Padded.chars ∘ Padded.mk Margin.none = id := funext Margin.around_none
  rw [listed, List.map_map, hPlain, List.map_id]

theorem argsOf_listed {args : List Padded} (hSome : args ≠ [])
    (hArgs : ∀ x ∈ args, IsArgument x.arg) : argsOf (listed args) = args.map Padded.arg := by
  have hPieces : Text.splitAt ',' (listed args) = args.map Padded.chars := by
    rw [Text.splitAt_eq_splitOn]
    apply List.splitOn_intercalate
    · intro piece hPiece
      obtain ⟨x, hMem, rfl⟩ := List.mem_map.mp hPiece
      rw [Padded.chars, Margin.mem_around (by decide)]
      exact (hArgs x hMem).comma
    · simpa using hSome
  rw [argsOf, hPieces, List.map_map]
  apply List.map_congr_left
  intro x hMem
  calc
    Text.strip x.chars = Text.strip x.arg := x.margin.strip_around x.arg
    _ = x.arg := Text.strip_of_isTrimmed (hArgs x hMem).trimmed

theorem listed_ne_nil {args : List Padded} (hSome : args ≠ [])
    (hArgs : ∀ x ∈ args, IsArgument x.arg) (hVacant : args.map Padded.arg ≠ [[]]) :
    listed args ≠ [] := by
  -- An empty body would be cut into one empty argument.
  intro hNone
  have hRead := argsOf_listed hSome hArgs
  rw [hNone] at hRead
  exact hVacant hRead.symm

theorem exists_padded (pieces : List (List Char)) :
    ∃ args : List Padded, args.map Padded.arg = pieces.map Text.strip ∧
      args.map Padded.chars = pieces := by
  induction pieces with
  | nil => exact ⟨[], rfl, rfl⟩
  | cons piece rest ih =>
    obtain ⟨m, hPiece⟩ := Margin.exists_around piece
    obtain ⟨args, hStrip, hRest⟩ := ih
    refine ⟨⟨m, Text.strip piece⟩ :: args, ?_, ?_⟩
    · rw [List.map_cons, List.map_cons, hStrip]
    · rw [List.map_cons, hRest, Padded.chars, ← hPiece]

theorem exists_listed (body : List Char) :
    ∃ args : List Padded, args.map Padded.arg = argsOf body ∧ listed args = body := by
  obtain ⟨args, hStrip, hPieces⟩ := exists_padded (Text.splitAt ',' body)
  refine ⟨args, hStrip, ?_⟩
  rw [listed, hPieces, Text.splitAt_eq_splitOn]
  exact List.intercalate_splitOn ','

theorem isArgument_of_mem_argsOf {body arg : List Char} (h : arg ∈ argsOf body) : IsArgument arg := by
  obtain ⟨piece, hPiece, rfl⟩ := List.mem_map.mp h
  constructor
  · intro hComma
    exact Text.notMem_of_mem_splitAt hPiece ((Text.strip_isInfix piece).subset hComma)
  · exact Text.isTrimmed_strip piece

theorem argsOf_ne_nil (body : List Char) : argsOf body ≠ [] := by
  rw [argsOf, ne_eq, List.map_eq_nil_iff]
  exact Text.splitAt_ne_nil ',' body

theorem open_notMem {name : List Char} (hName : ∀ c ∈ name, isNameChar c = true) : '(' ∉ name := by
  intro hMem
  have hChar := hName '(' hMem
  rw [isNameChar_open] at hChar
  cases hChar

theorem isProper_of_read? {source : List Char} {x : Call} (h : read? source = some x) :
    x.IsProper := by
  obtain ⟨body, _, hName, hChars, _, hArgs⟩ := read?_eq_some_iff.mp h
  constructor
  · exact hName
  · exact hChars
  · rw [hArgs]
    exact argsOf_ne_nil body
  · intro arg hMem
    rw [hArgs] at hMem
    exact isArgument_of_mem_argsOf hMem

theorem read?_listed {x : Call} (hProper : x.IsProper) (hVacant : x.args ≠ [[]])
    {args : List Padded} (hArgs : args.map Padded.arg = x.args) :
    read? (written x.name (listed args)) = some x := by
  have hSome : args ≠ [] := by
    rintro rfl
    exact hProper.args_ne_nil hArgs.symm
  have hEach : ∀ a ∈ args, IsArgument a.arg := by
    intro a hMem
    apply hProper.arguments
    rw [← hArgs]
    exact List.mem_map_of_mem hMem
  have hBody : listed args ≠ [] := listed_ne_nil hSome hEach (hArgs ▸ hVacant)
  rw [read?_written hProper.name_ne_nil hProper.nameChars hBody, argsOf_listed hSome hEach, hArgs]

theorem read?_text {x : Call} (hProper : x.IsProper) (hVacant : x.args ≠ [[]]) :
    read? x.text = some x := by
  rw [text, ← listed_plain]
  apply read?_listed hProper hVacant
  rw [List.map_map]
  exact List.map_id x.args

/-- The text is no call, and the readers of predicates blame it for that. -/
structure IsRefused (source : List Char) : Prop where
  call : read? source = none
  element : ∀ (limit : Int) (depth : Nat),
    Predicate.readElement limit depth source = .error (Predicate.failure .call source)
  site : ∀ limit : Int, Predicate.readSite limit source = .error (Predicate.failure .call source)

theorem isRefused_of_read? {source : List Char} (h : read? source = none) : IsRefused source where
  call := h
  element := fun limit depth => by rw [Predicate.readElement_eq, h]
  site := fun limit => by rw [Predicate.readSite, h]

theorem isRefused_text {x : Call} (hName : ∀ c ∈ x.name, isNameChar c = true)
    (hVacant : x.args = [[]]) : IsRefused x.text := by
  have hText : x.text = written x.name [] := by
    rw [text, hVacant]
    rfl
  apply isRefused_of_read?
  rw [hText]
  apply Option.eq_none_iff_forall_not_mem.mpr
  intro found hFound
  obtain ⟨body, hSame, _, hOther, hBody, _⟩ := read?_eq_some_iff.mp hFound
  obtain ⟨_, hEmpty⟩ := written_inj hName hOther hSame
  exact hBody hEmpty.symm

/-- What holds of a text and the call that it is read as. -/
structure IsSource (source : List Char) (x : Call) : Prop where
  proper : x.IsProper
  padded : ∃ args, args.map Padded.arg = x.args ∧ source = written x.name (listed args)
  commas : ∃ body, source = x.name ++ '(' :: (body ++ [')']) ∧ '(' ∉ x.name ∧
    x.args.length = body.count ',' + 1
  again : x.args ≠ [[]] → read? x.text = some x
  vacant : x.args = [[]] → IsRefused x.text

theorem isSource_of_read? {source : List Char} {x : Call} (h : read? source = some x) :
    IsSource source x := by
  obtain ⟨body, hSource, _, hChars, _, hArgs⟩ := read?_eq_some_iff.mp h
  obtain ⟨args, hSame, hBody⟩ := exists_listed body
  have hProper := isProper_of_read? h
  have hLength : x.args.length = body.count ',' + 1 := by
    rw [hArgs]
    exact length_argsOf body
  exact
    { proper := hProper
      padded := ⟨args, hSame.trans hArgs.symm, by rw [hSource, hBody]⟩
      commas := ⟨body, hSource, open_notMem hChars, hLength⟩
      again := read?_text hProper
      vacant := isRefused_text hChars }

/-- Reading undoes the listing of arguments with any blanks around them, but for a single empty one.
Whatever is read is such a list, and is read again from the text without the blanks. -/
theorem reading_undoes_listing :
    (∀ x : Call, x.IsProper → x.args ≠ [[]] →
      ∀ args : List Padded, args.map Padded.arg = x.args →
        read? (written x.name (listed args)) = some x) ∧
    ∀ (source : List Char) (x : Call), read? source = some x → IsSource source x := by
  constructor
  · intro x hProper hVacant args hArgs
    exact read?_listed hProper hVacant hArgs
  · intro source x hRead
    exact isSource_of_read? hRead

/-- Empty arguments stand between commas, behind the last one and, if alone, between blanks. -/
theorem reading_undoes_listing_empty :
    let x : Call := ⟨"f_1".toList, [[], "a (b".toList, []]⟩
    let margin : Margin := ⟨['\n'], ['\u2003', ' '], by decide, by decide⟩
    let args : List Padded := [⟨.none, []⟩, ⟨margin, "a (b".toList⟩, ⟨.none, []⟩]
    let lone : Call := ⟨['f'], [[]]⟩
    x.IsProper ∧ x.args ≠ [[]] ∧ args.map Padded.arg = x.args ∧
      written x.name (listed args) = "f_1(,\na (b\u2003 ,)".toList ∧
      read? "f_1(,\na (b\u2003 ,)".toList = some x ∧ read? "f_1(,a (b,)".toList = some x ∧
      read? "f( )".toList = some lone ∧ lone.IsProper ∧ IsRefused "f()".toList := by
  intro x margin args lone
  obtain ⟨hListed, hRead⟩ := reading_undoes_listing
  have hProper : x.IsProper := ⟨by decide, by decide, by decide, by decide⟩
  have hWritten : written x.name (listed args) = "f_1(,\na (b\u2003 ,)".toList := by decide
  have hFirst := hListed x hProper (by decide) args rfl
  rw [hWritten] at hFirst
  have hLone : read? "f( )".toList = some lone := by decide
  exact ⟨hProper, by decide, rfl, hWritten, hFirst, (hRead _ x hFirst).again (by decide), hLone,
    (hRead _ lone hLone).proper, (hRead _ lone hLone).vacant rfl⟩

end PageCheck.Call
