import PageCheck.Proofs.Html.Part
import PageCheck.Proofs.Html.Refusal
import PageCheck.Proofs.Text.Strip

/-!
# The tags of written parts

Written parts are read tag by tag: no character of an escaped text or value begins a tag or ends
one, so the names of the tags that are read are those of the parts, in order.
-/

namespace PageCheck.Html.Token

set_option autoImplicit false

open Markup (Mark Name Part attributeChars escapeChar escapeChars written)
open Text (isBlank)

/-- The name of a tag, behind a slash if it is an end tag. -/
def tagName? : Token → Option (List Char)
  | start tag => some tag.name
  | finish name => some ('/' :: name)
  | _ => none

def tagNames (tokens : List Token) : List (List Char) := tokens.filterMap tagName?

/-- The first pass over a text gets from one place to another and finds tags of the given names. -/
def Reads (raw : Option (List Char)) (s : List Char) (names : List (List Char))
    (raw' : Option (List Char)) (rest : List Char) : Prop :=
  ∃ tokens, tagNames tokens = names ∧
    scan false raw s = (scan false raw' rest).map (tokens ++ ·)

variable {raw raw' raw'' : Option (List Char)} {s t rest : List Char} {names more : List (List Char)}
  {tokens : List Token}

theorem Reads.refl : Reads raw s [] raw s := by
  refine ⟨[], rfl, ?_⟩
  cases scan false raw s <;> rfl

theorem Reads.trans (hFirst : Reads raw s names raw' t) (hThen : Reads raw' t more raw'' rest) :
    Reads raw s (names ++ more) raw'' rest := by
  obtain ⟨tokens, rfl, hTokens⟩ := hFirst
  obtain ⟨others, rfl, hOthers⟩ := hThen
  refine ⟨tokens ++ others, List.filterMap_append, ?_⟩
  rw [hTokens, hOthers]
  cases scan false raw'' rest with
  | error fault => rfl
  | ok last => exact congrArg Except.ok (List.append_assoc tokens others last).symm

theorem scan_go (hText : s ≠ []) (hStep : step false raw s = .ok (.go tokens raw' rest)) :
    scan false raw s = (scan false raw' rest).map (tokens ++ ·) := by
  rw [scan, if_neg (by simpa using hText)]
  split <;> simp_all

theorem reads_of_step (hText : s ≠ []) (hStep : step false raw s = .ok (.go tokens raw' rest)) :
    Reads raw s (tagNames tokens) raw' rest := ⟨tokens, rfl, scan_go hText hStep⟩

/-! Escaped texts -/

theorem step_entity {c : Char} (h : escapeChar c ∈ Markup.entities) (rest : List Char) :
    ∃ text, step false none (escapeChar c ++ rest) = .ok (.go [.text text] none rest) := by
  simp only [Markup.entities, List.mem_cons, List.not_mem_nil, or_false] at h
  rcases h with h | h | h | h | h
  · rw [h]; exact ⟨_, rfl⟩
  · rw [h]; exact ⟨_, rfl⟩
  · rw [h]; exact ⟨_, rfl⟩
  · rw [h]; exact ⟨_, rfl⟩
  · rw [h]; exact ⟨_, rfl⟩

def isOrdinary (c : Char) : Bool := !(c == '&' || Markup.isMark c)

theorem escapeChars_of_isOrdinary {run : List Char} (h : ∀ c ∈ run, isOrdinary c = true) :
    escapeChars run = run := by
  induction run with
  | nil => rfl
  | cons c run ih =>
    have hFirst := h c List.mem_cons_self
    simp only [isOrdinary, Markup.isMark, Bool.not_eq_true', Bool.or_eq_false_iff,
      beq_eq_false_iff_ne] at hFirst
    rw [Markup.escapeChars_cons, ih fun d hMem => h d (List.mem_cons_of_mem c hMem), escapeChar]
    simp [hFirst]

theorem isPlain_of_isOrdinary {c : Char} (h : isOrdinary c = true) : isPlain c = true := by
  simp only [isOrdinary, Markup.isMark, Bool.not_eq_true', Bool.or_eq_false_iff] at h
  simp [isPlain, h]

theorem escapeChar_mem_entities {c : Char} (h : isOrdinary c = false) :
    escapeChar c ∈ Markup.entities := by
  rcases Markup.escapeChar_cases c with ⟨hEntity, _⟩ | ⟨_, hNot⟩
  · exact hEntity
  · simp [isOrdinary, Markup.isMark, hNot] at h

theorem head?_escapeChars {text : List Char} (h : ∀ c ∈ text.head?, isOrdinary c = false) :
    ∀ c ∈ (escapeChars text ++ '<' :: rest).head?, isPlain c = false := by
  cases text with
  | nil =>
    rintro c ⟨⟩
    rfl
  | cons d text =>
    have hHead := (Markup.ampersand_of_mem_entities _ (escapeChar_mem_entities (h d rfl))).1
    rw [Markup.escapeChars_cons, List.append_assoc, List.head?_append, hHead]
    rintro c ⟨⟩
    rfl

theorem step_run {run : List Char} (hSome : run ≠ []) (hRun : ∀ c ∈ run, isPlain c = true)
    (hRest : ∀ c ∈ rest.head?, isPlain c = false) :
    step false none (run ++ rest) = .ok (.go [.text run] none rest) := by
  obtain ⟨c, others, rfl⟩ := List.exists_cons_of_ne_nil hSome
  have hNot : c ≠ '<' ∧ c ≠ '&' := by simpa [isPlain] using hRun c List.mem_cons_self
  have hStep : step false none (c :: others ++ rest) = .ok (.go
      [.text ((c :: others ++ rest).takeWhile isPlain)] none ((c :: others ++ rest).dropWhile isPlain)) := by
    rw [List.cons_append, step]
    · simp
    · rintro more ⟨⟩
      exact hNot.1 rfl
    · rintro more ⟨⟩
      exact hNot.2 rfl
  rw [hStep, Text.takeWhile_run hRun hRest, Text.dropWhile_run hRun hRest]

/-- A text that is not markup is read up to the tag behind it. -/
theorem reads_escapeChars (text : List Char) :
    Reads none (escapeChars text ++ '<' :: rest) [] none ('<' :: rest) := by
  induction hLength : text.length using Nat.strongRecOn generalizing text with
  | ind n ih =>
    cases text with
    | nil => exact Reads.refl
    | cons c text =>
      have hShort : text.length < n := by simp [← hLength]
      cases hOrdinary : isOrdinary c with
      | false =>
        have hEntity := escapeChar_mem_entities hOrdinary
        obtain ⟨shown, hStep⟩ := step_entity hEntity (escapeChars text ++ '<' :: rest)
        rw [Markup.escapeChars_cons, List.append_assoc]
        refine Reads.trans (reads_of_step ?_ hStep) (ih text.length hShort text rfl)
        intro hNil
        rw [(List.append_eq_nil_iff.mp hNil).1] at hEntity
        cases (Markup.ampersand_of_mem_entities _ hEntity).1
      | true =>
        -- The run of ordinary characters is taken in one step.
        have hRun : ∀ d ∈ c :: text.takeWhile isOrdinary, isOrdinary d = true := by
          rintro d (_ | ⟨_, hMem⟩)
          · exact hOrdinary
          · exact Text.holds_of_mem_takeWhile hMem
        have hSplit : escapeChars (c :: text) =
            (c :: text.takeWhile isOrdinary) ++ escapeChars (text.dropWhile isOrdinary) := by
          rw [← congrArg (· ++ _) (escapeChars_of_isOrdinary hRun), ← Markup.escapeChars_append,
            List.cons_append, List.takeWhile_append_dropWhile]
        have hNext : ∀ d ∈ (escapeChars (text.dropWhile isOrdinary) ++ '<' :: rest).head?,
            isPlain d = false := head?_escapeChars fun d => Text.fails_of_mem_head?_dropWhile
        have hStep := step_run (List.cons_ne_nil c _)
          (fun d hMem => isPlain_of_isOrdinary (hRun d hMem)) hNext
        have hOthers := Text.length_dropWhile_le isOrdinary text
        rw [hSplit, List.append_assoc]
        exact Reads.trans (reads_of_step (by simp) hStep) (ih _ (by omega) _ rfl)

/-! Names and attributes -/

theorem isBlank_of_isLetter {c : Char} (h : Tag.isLetter c = true) : isBlank c = false :=
  Text.isBlank_of_isAlphanum (Bool.or_eq_true_iff.mpr (Or.inl h))

theorem isBlank_of_isEndNameChar {c : Char} (h : isEndNameChar c = true) : isBlank c = false := by
  simp only [isEndNameChar, Bool.or_eq_true, beq_iff_eq] at h
  rcases h with (((hAlphanum | rfl) | rfl) | rfl) | rfl
  · exact Text.isBlank_of_isAlphanum hAlphanum
  all_goals decide

theorem isNameChar_of_isEndNameChar {c : Char} (h : isEndNameChar c = true) :
    Tag.isNameChar c = true := by
  simp only [Tag.isNameChar, Bool.not_eq_true', Bool.or_eq_false_iff, beq_eq_false_iff_ne]
  refine ⟨⟨⟨⟨⟨⟨⟨?_, ?_⟩, ?_⟩, ?_⟩, ?_⟩, ?_⟩, ?_⟩, ?_⟩ <;>
  · rintro rfl
    exact absurd h (by decide)

theorem isAttributeChar_of_isEndNameChar {c : Char} (h : isEndNameChar c = true) :
    Tag.isAttributeChar c = true := by
  simp only [Tag.isAttributeChar, isBlank_of_isEndNameChar h, Bool.false_or, Bool.not_eq_true',
    Bool.or_eq_false_iff, beq_eq_false_iff_ne]
  refine ⟨⟨?_, ?_⟩, ?_⟩ <;>
  · rintro rfl
    exact absurd h (by decide)

theorem find?_append {mark : List Char → Option (List Char)} {run : List Char}
    (h : ∀ c ∈ run, ∀ more, mark (c :: more) = none) (s : List Char) :
    find? mark (run ++ s) = (find? mark s).map fun found => (run ++ found.1, found.2) := by
  induction run with
  | nil => cases hFound : find? mark s <;> simp [hFound]
  | cons c run ih =>
    rw [List.cons_append, find?, h c List.mem_cons_self,
      ih fun d hMem => h d (List.mem_cons_of_mem c hMem)]
    cases find? mark s <;> rfl

theorem find?_run {run : List Char} {c : Char} (h : c ∉ run) :
    find? (behind? c) (run ++ c :: rest) = some (run, rest) := by
  have hHere : find? (behind? c) (c :: rest) = some ([], rest) := by simp [find?, behind?]
  rw [find?_append, hHere]
  · simp
  · intro d hMem more
    exact if_neg fun hSame : d = c => h (hSame ▸ hMem)

theorem notMem_name (name : Name) {c : Char} (h : isEndNameChar c = false) : c ∉ name.chars := by
  intro hMem
  rw [name.isEndNameChar_of_mem c hMem] at h
  cases h

theorem endName?_name (name : Name) :
    endName? (name.chars ++ '>' :: rest) = some (name.chars, rest) := by
  obtain ⟨c, others, hChars, hLetter⟩ := name.exists_letter
  have hLower := name.lower_chars
  have hOthers : ∀ d ∈ others, isEndNameChar d = true := fun d hMem =>
    name.isEndNameChar_of_mem d (hChars ▸ List.mem_cons_of_mem c hMem)
  have hEnd : ∀ d ∈ ('>' :: rest).head?, isEndNameChar d = false := by
    rintro d ⟨⟩
    rfl
  rw [hChars] at hLower ⊢
  have hBlanks : skipBlanks (c :: others ++ '>' :: rest) = c :: (others ++ '>' :: rest) :=
    List.dropWhile_cons_of_neg (by simp [isBlank_of_isLetter hLetter])
  rw [endName?, hBlanks]
  simp only [hLetter, if_true, Text.takeWhile_run hOthers hEnd, Text.dropWhile_run hOthers hEnd, hLower]
  rfl

theorem step_finish (name : Name) :
    step false none ((Mark.finish name).chars ++ rest) = .ok (.go [.finish name.chars] none rest) := by
  have hText : (Mark.finish name).chars ++ rest = '<' :: '/' :: (name.chars ++ '>' :: rest) := by
    simp [Mark.chars]
  rw [hText]
  simp only [step, markup, endTag, find?_run (notMem_name name (c := '>') rfl), endName?_name]

theorem skipGap_cons {c : Char} (h : c ≠ '/') (s : List Char) :
    Tag.skipGap (c :: s) = if isBlank c then Tag.skipGap s else c :: s := by
  rw [Tag.skipGap.eq_def]
  split
  · contradiction
  · rename_i hText
    exact absurd (List.cons.inj hText).1 h
  · rename_i hText
    cases hText
    simp [h]

theorem skipGap_of_not_isBlank {c : Char} (h : c ≠ '/') (hBlank : isBlank c = false) (s : List Char) :
    Tag.skipGap (c :: s) = c :: s := by rw [skipGap_cons h, hBlank, if_neg Bool.false_ne_true]

theorem skipGap_gt : Tag.skipGap ('>' :: rest) = '>' :: rest :=
  skipGap_of_not_isBlank (by decide) (by decide) rest

theorem skipGap_attributes (a : Name × List Char) (s : List Char) :
    Tag.skipGap (attributeChars a ++ s) = a.1.chars ++ '=' :: '"' :: (escapeChars a.2 ++ '"' :: s) := by
  obtain ⟨c, others, hChars, hLetter⟩ := a.1.exists_letter
  have hSlash : c ≠ '/' := by
    rintro rfl
    cases hLetter
  rw [attributeChars, List.cons_append, skipGap_cons (by decide), if_pos (by decide), hChars]
  simp only [List.cons_append, List.append_assoc, List.nil_append]
  exact skipGap_of_not_isBlank hSlash (isBlank_of_isLetter hLetter) _

theorem value?_quoted (v s : List Char) :
    Tag.value? ('=' :: '"' :: (escapeChars v ++ '"' :: s)) = some (escapeChars v, s, true) := by
  have hRun : ∀ c ∈ escapeChars v, (c != '"') = true := by
    intro c hMem
    have hMark := Markup.isMark_of_mem_escapeChars hMem
    simp only [Markup.isMark, Bool.or_eq_false_iff] at hMark
    simp [bne, hMark]
  have hEnd : ∀ c ∈ ('"' :: s).head?, (c != '"') = false := by
    rintro c ⟨⟩
    rfl
  have hQuoted : Tag.quotedValue? '"' (escapeChars v ++ '"' :: s) = some (escapeChars v, s) := by
    rw [Tag.quotedValue?, Text.dropWhile_run hRun hEnd, Text.takeWhile_run hRun hEnd]
  have hSign : isBlank '=' = false := by decide
  have hQuote : isBlank '"' = false := by decide
  simp [Tag.value?, hSign, hQuote, hQuoted]

theorem readAttribute?_attribute (a : Name × List Char) (s : List Char) :
    Tag.readAttribute? (a.1.chars ++ '=' :: '"' :: (escapeChars a.2 ++ '"' :: s)) =
      some (⟨a.1.chars, some (escapeChars a.2)⟩, Tag.skipGap s, true) := by
  obtain ⟨c, others, hChars, hLetter⟩ := a.1.exists_letter
  have hOthers : ∀ d ∈ others, Tag.isAttributeChar d = true := fun d hMem =>
    isAttributeChar_of_isEndNameChar (a.1.isEndNameChar_of_mem d (hChars ▸ List.mem_cons_of_mem c hMem))
  have hEnd (v : List Char) : ∀ d ∈ ('=' :: v).head?, Tag.isAttributeChar d = false := by
    rintro d ⟨⟩
    decide
  have hStart : Tag.isAttributeStart c = true := by
    have hFirst := isAttributeChar_of_isEndNameChar
      (a.1.isEndNameChar_of_mem c (hChars ▸ List.mem_cons_self))
    simp only [Tag.isAttributeChar, Bool.not_eq_true', Bool.or_eq_false_iff] at hFirst
    simp [Tag.isAttributeStart, hFirst]
  rw [hChars]
  simp [Tag.readAttribute?, hStart, Text.takeWhile_run hOthers (hEnd _),
    Text.dropWhile_run hOthers (hEnd _), value?_quoted]

theorem readAttributes_gt (ready : Bool) :
    Tag.readAttributes ready ('>' :: rest) = ([], '>' :: rest) := by
  rw [Tag.readAttributes]
  have hNone : Tag.readAttribute? ('>' :: rest) = none := by
    simp [Tag.readAttribute?, Tag.isAttributeStart]
  split
  · split
    · simp_all
    · rfl
  · rfl

theorem readAttributes_attributes (attributes : List (Name × List Char)) :
    Tag.readAttributes true (Tag.skipGap (attributes.flatMap attributeChars ++ '>' :: rest)) =
      (attributes.map fun a => ⟨a.1.chars, some (escapeChars a.2)⟩, '>' :: rest) := by
  induction attributes with
  | nil =>
    rw [List.flatMap_nil, List.nil_append, skipGap_gt]
    exact readAttributes_gt true
  | cons a attributes ih =>
    rw [List.flatMap_cons, List.append_assoc, skipGap_attributes, Tag.readAttributes, if_pos rfl]
    split
    · rename_i hSome
      rw [readAttribute?_attribute] at hSome
      cases hSome
      rw [ih]
      rfl
    · rename_i hNone
      rw [readAttribute?_attribute] at hNone
      cases hNone

theorem not_hasLongReference_escapeChars (s : List Char) :
    ¬ Entity.HasLongReference (escapeChars s) := by
  rintro ⟨before, after, hText, hLong⟩
  obtain ⟨e, hEntity, more, hMore⟩ := Markup.entity_of_escapeChars hText
  simp only [Markup.entities, List.mem_cons, List.not_mem_nil, or_false] at hEntity
  have hDigits (c : Char) (hDigit : c.isDigit = true) :
      (c :: '4' :: ';' :: more).takeWhile Char.isDigit = [c, '4'] ∧
        (c :: '9' :: ';' :: more).takeWhile Char.isDigit = [c, '9'] := by
    simp [hDigit]
  rcases hEntity with rfl | rfl | rfl | rfl | rfl
  all_goals simp only [String.reduceToList, List.cons_append, List.cons.injEq] at hMore
  · exact absurd hMore.2.1 (by decide)
  · exact absurd hMore.2.1 (by decide)
  · exact absurd hMore.2.1 (by decide)
  · rw [← hMore.2.2, List.nil_append, (hDigits '3' rfl).1] at hLong
    exact absurd hLong (by decide)
  · rw [← hMore.2.2, List.nil_append, (hDigits '3' rfl).2] at hLong
    exact absurd hLong (by decide)

/-! Tags -/

def rawAttribute (a : Name × List Char) : Tag.RawAttribute := ⟨a.1.chars, some (escapeChars a.2)⟩

theorem isNameChar_of_mem (name : Name) : ∀ c ∈ name.chars, Tag.isNameChar c = true := fun c hMem =>
  isNameChar_of_isEndNameChar (name.isEndNameChar_of_mem c hMem)

theorem head?_attributes_gt (attributes : List (Name × List Char)) :
    ∀ c ∈ (attributes.flatMap attributeChars ++ '>' :: rest).head?, Tag.isNameChar c = false := by
  cases attributes with
  | nil => simp [Tag.isNameChar]
  | cons a attributes => simp [attributeChars, Tag.isNameChar]

theorem written_start (name : Name) (attributes : List (Name × List Char)) :
    Tag.written (name.chars ++ (attributes.flatMap attributeChars ++ '>' :: rest)) =
      (attributes.map rawAttribute, '>' :: rest) := by
  have hName := isNameChar_of_mem name
  have hEnd : ∀ c ∈ (attributes.flatMap attributeChars ++ '>' :: rest).head?, Tag.isNameChar c = false :=
    head?_attributes_gt attributes
  simp only [Tag.written, Text.takeWhile_run hName hEnd, Text.dropWhile_run hName hEnd]
  cases attributes with
  | nil =>
    rw [List.flatMap_nil, List.nil_append, skipGap_gt]
    exact readAttributes_gt _
  | cons a attributes =>
    have hGap : (Tag.skipGap ((a :: attributes).flatMap attributeChars ++ '>' :: rest)).length <
        ((a :: attributes).flatMap attributeChars ++ '>' :: rest).length := by
      rw [List.flatMap_cons, List.append_assoc, skipGap_attributes]
      simp [attributeChars]
    rw [decide_eq_true hGap, Bool.true_or]
    exact readAttributes_attributes (a :: attributes)

theorem decodeAttributes_written (attributes : List (Name × List Char)) :
    ∃ values, Tag.decodeAttributes [] (attributes.map rawAttribute) = .ok values := by
  cases hDecoded : Tag.decodeAttributes [] (attributes.map rawAttribute) with
  | ok values => exact ⟨values, rfl⟩
  | error fault =>
    obtain ⟨a, hMem, v, hValue, hLong⟩ := (Tag.decodeAttributes_fails_iff []).mp ⟨fault, hDecoded⟩
    obtain ⟨b, _, rfl⟩ := List.mem_map.mp hMem
    cases hValue
    exact absurd hLong (not_hasLongReference_escapeChars b.2)

theorem read_start (name : Name) (attributes : List (Name × List Char)) :
    ∃ values, Tag.decodeAttributes [] (attributes.map rawAttribute) = .ok values ∧
      Tag.read (name.chars ++ (attributes.flatMap attributeChars ++ '>' :: rest)) =
        .ok (.tag ⟨name.chars, values, false⟩ rest) := by
  obtain ⟨values, hValues⟩ := decodeAttributes_written attributes
  refine ⟨values, hValues, ?_⟩
  rw [Tag.read_eq, written_start]
  simp only [hValues, Text.takeWhile_run (isNameChar_of_mem name) (head?_attributes_gt attributes),
    name.lower_chars]
  rfl

theorem markup_of_letter {c : Char} {s after : List Char} {tag : Tag} (hLetter : Tag.isLetter c = true)
    (hRead : Tag.read (c :: s) = .ok (.tag tag after)) (text : List Char) : markup false text (c :: s) =
      .ok (.go [.start tag]
        (if !tag.closed && rawElements.contains tag.name then some tag.name else none) after) := by
  unfold markup
  split
  case h_5 hFirst =>
    cases hFirst
    simp only [hLetter, hRead, if_true]
  all_goals
    rename_i hFirst
    cases hFirst
  -- None of the marks that stand behind a less-than sign is a letter.
  all_goals cases hLetter

theorem step_start (name : Name) (attributes : List (Name × List Char)) (rest : List Char) :
    ∃ values, Tag.decodeAttributes [] (attributes.map rawAttribute) = .ok values ∧
      step false none ((Mark.start name attributes).chars ++ rest) =
        .ok (.go [.start ⟨name.chars, values, false⟩]
          (if rawElements.contains name.chars then some name.chars else none) rest) := by
  obtain ⟨values, hValues, hRead⟩ := read_start name attributes
  have hText : (Mark.start name attributes).chars ++ rest =
      '<' :: (name.chars ++ (attributes.flatMap attributeChars ++ '>' :: rest)) := by
    simp [Mark.chars]
  obtain ⟨c, others, hChars, hLetter⟩ := name.exists_letter
  refine ⟨values, hValues, ?_⟩
  rw [hText, step]
  rw [hChars] at hRead ⊢
  exact markup_of_letter hLetter hRead _

theorem reads_start (name : Name) (attributes : List (Name × List Char))
    (h : rawElements.contains name.chars = false) :
    Reads none ((Mark.start name attributes).chars ++ rest) [name.chars] none rest := by
  obtain ⟨values, _, hStep⟩ := step_start name attributes rest
  rw [h, if_neg Bool.false_ne_true] at hStep
  exact reads_of_step (by simp [Mark.chars]) hStep

theorem reads_finish (name : Name) :
    Reads none ((Mark.finish name).chars ++ rest) ['/' :: name.chars] none rest :=
  reads_of_step (by simp [Mark.chars]) (step_finish name)

/-! Parts -/

def tagNameOf : Mark → List Char
  | .start name _ => name.chars
  | .finish name => '/' :: name.chars

/-- Whether what follows the mark is read as markup. -/
def opensRaw : Mark → Bool
  | .start name _ => rawElements.contains name.chars
  | .finish _ => false

theorem reads_mark {mark : Mark} (h : opensRaw mark = false) :
    Reads none (mark.chars ++ rest) [tagNameOf mark] none rest := by
  cases mark with
  | start name attributes => exact reads_start name attributes h
  | finish name => exact reads_finish name

theorem reads_before (part : Part) (rest : List Char) :
    Reads none (part.chars ++ rest) [] none (part.mark.chars ++ rest) := by
  obtain ⟨more, hMore⟩ : ∃ more, part.mark.chars ++ rest = '<' :: more :=
    List.head?_eq_some_iff.mp (Markup.head?_mark part.mark rest)
  rw [Part.chars, List.append_assoc, hMore]
  exact reads_escapeChars part.before

theorem reads_part {part : Part} (h : opensRaw part.mark = false) :
    Reads none (part.chars ++ rest) [tagNameOf part.mark] none rest :=
  (reads_before part rest).trans (reads_mark h)

/-- The tags that are read are those that were written. -/
theorem reads_written {parts : List Part} (h : ∀ part ∈ parts, opensRaw part.mark = false) :
    Reads none (written parts ++ rest) (parts.map fun part => tagNameOf part.mark) none rest := by
  induction parts with
  | nil => exact Reads.refl
  | cons part parts ih =>
    rw [Markup.written_cons, List.append_assoc]
    exact Reads.trans (reads_part (h part List.mem_cons_self))
      (ih fun other hMem => h other (List.mem_cons_of_mem part hMem))

theorem exists_tokens_of_reads (h : Reads none s names none []) :
    ∃ tokens, ofText s = .ok tokens ∧ tagNames tokens = names := by
  obtain ⟨tokens, hNames, hScan⟩ := h
  refine ⟨tokens, ?_, hNames⟩
  have hEnd : scan false none [] = .ok [] := by
    rw [scan]
    rfl
  rw [ofText, hScan, hEnd]
  exact congrArg Except.ok (List.append_nil tokens)

/-! Elements with raw content -/

def styleName : Name := .of "style"

theorem find?_style {content : List Char} (h : '<' ∉ content) :
    find? (fun t => (rawEnd? styleName.chars t).map fun _ => t)
        (content ++ ((Mark.finish styleName).chars ++ rest)) =
      some (content, (Mark.finish styleName).chars ++ rest) := by
  have hHere : find? (fun t => (rawEnd? styleName.chars t).map fun _ => t)
      ((Mark.finish styleName).chars ++ rest) = some ([], (Mark.finish styleName).chars ++ rest) := rfl
  rw [find?_append, hHere, Option.map_some, List.append_nil]
  · intro c hMem more
    have hNot : c ≠ '<' := fun hSame => h (hSame ▸ hMem)
    rw [rawEnd?]
    · rfl
    · rintro rest ⟨⟩
      exact hNot rfl

/-- The content of a style element is passed over. -/
theorem reads_style {content : List Char} (h : '<' ∉ content) :
    Reads none ((Mark.start styleName []).chars ++ (content ++ ((Mark.finish styleName).chars ++ rest)))
      [styleName.chars, '/' :: styleName.chars] none rest := by
  have hFinish : Reads (some styleName.chars) ((Mark.finish styleName).chars ++ rest)
      ['/' :: styleName.chars] none rest := by
    have hStep : step false (some styleName.chars) ((Mark.finish styleName).chars ++ rest) =
        .ok (.go [.finish styleName.chars] none rest) := rfl
    exact reads_of_step (by simp [Mark.chars]) hStep
  have hContent : Reads (some styleName.chars) (content ++ ((Mark.finish styleName).chars ++ rest)) []
      (some styleName.chars) ((Mark.finish styleName).chars ++ rest) := by
    cases content with
    | nil => exact Reads.refl
    | cons c content =>
      have hStep : step false (some styleName.chars)
          (c :: content ++ ((Mark.finish styleName).chars ++ rest)) = .ok (.go [.text (c :: content)]
            (some styleName.chars) ((Mark.finish styleName).chars ++ rest)) := by
        rw [step, rawStep]
        simp only [find?_style h]
      exact reads_of_step (by simp) hStep
  obtain ⟨values, _, hStart⟩ := step_start styleName [] (content ++ ((Mark.finish styleName).chars ++ rest))
  refine Reads.trans (reads_of_step ?_ hStart) (hContent.trans hFinish)
  simp [Mark.chars]

end PageCheck.Html.Token
