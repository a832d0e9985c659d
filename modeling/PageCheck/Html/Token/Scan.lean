import PageCheck.Html.Token.Tag

/-!
# The tokens of a text

A text is read in two passes. The first stops at markup that may be continued; the second takes up
there, turns what cannot be completed into text, and stops for good at a reference that is cut off.
Inside an element with raw content only its own end tag is looked for, and content without such an
end is lost.
-/

namespace PageCheck.Html.Token

open Text (IsBehind isBlank)

/-- One step over a text: the tokens it gives, and the text that is left. -/
inductive Move where
  /-- Go on with the rest, inside the given element with raw content if there is one. -/
  | go (tokens : List Token) (raw : Option (List Char)) (rest : List Char)
  /-- The pass ends here. -/
  | halt (tokens : List Token) (rest : List Char)

/-- The text before the first place where a mark stands, and the text behind the mark. -/
def find? (mark : List Char → Option (List Char)) : List Char → Option (List Char × List Char)
  | [] => none
  | c :: rest =>
    match mark (c :: rest) with
    | some after => some ([], after)
    | none => (find? mark rest).map fun (before, after) => (c :: before, after)

theorem eq_append_of_find? {mark : List Char → Option (List Char)} {s before after : List Char}
    (h : find? mark s = some (before, after)) : ∃ t, s = before ++ t ∧ mark t = some after := by
  induction s generalizing before with
  | nil => cases h
  | cons c rest ih =>
    rw [find?] at h
    split at h
    · cases h
      exact ⟨_, rfl, ‹_›⟩
    · obtain ⟨⟨before, after⟩, found, heq⟩ := Option.map_eq_some_iff.1 h
      cases heq
      obtain ⟨t, rfl, ht⟩ := ih found
      exact ⟨t, rfl, ht⟩

theorem find?_behind {mark : List Char → Option (List Char)}
    (takes : ∀ {t rest}, mark t = some rest → IsBehind rest t) {s before after : List Char}
    (h : find? mark s = some (before, after)) : IsBehind after s := by
  obtain ⟨t, rfl, ht⟩ := eq_append_of_find? h
  exact (takes ht).trans_suffix (List.suffix_append before t)

def skipBlanks (s : List Char) : List Char := s.dropWhile isBlank

theorem skipBlanks_suffix (s : List Char) : skipBlanks s <:+ s := List.dropWhile_suffix isBlank

def behind? (c : Char) : List Char → Option (List Char)
  | d :: rest => if d = c then some rest else none
  | [] => none

theorem behind?_behind {c : Char} {s rest : List Char} (h : behind? c s = some rest) :
    IsBehind rest s := by
  unfold behind? at h
  split at h
  · split at h <;> cases h
    exact .cons _ _
  · cases h

/-- The end of a comment: two hyphens, blanks and a greater-than sign. -/
def commentEnd? : List Char → Option (List Char)
  | '-' :: '-' :: rest => behind? '>' (skipBlanks rest)
  | _ => none

def conditionEnd? : List Char → Option (List Char)
  | ']' :: rest => behind? '>' (skipBlanks rest)
  | _ => none

def sectionEnd? : List Char → Option (List Char)
  | ']' :: rest => conditionEnd? (skipBlanks rest)
  | _ => none

theorem commentEnd?_behind {s rest : List Char} (h : commentEnd? s = some rest) :
    IsBehind rest s := by
  unfold commentEnd? at h
  split at h
  · rename_i tail
    have hTail := ((skipBlanks_suffix tail).trans (List.suffix_cons '-' tail)).trans
      (List.suffix_cons '-' _)
    exact (behind?_behind h).trans_suffix hTail
  · cases h

theorem conditionEnd?_behind {s rest : List Char} (h : conditionEnd? s = some rest) :
    IsBehind rest s := by
  unfold conditionEnd? at h
  split at h
  · rename_i tail
    exact (behind?_behind h).trans_suffix ((skipBlanks_suffix tail).trans (List.suffix_cons ']' tail))
  · cases h

theorem sectionEnd?_behind {s rest : List Char} (h : sectionEnd? s = some rest) :
    IsBehind rest s := by
  unfold sectionEnd? at h
  split at h
  · rename_i tail
    exact (conditionEnd?_behind h).trans_suffix
      ((skipBlanks_suffix tail).trans (List.suffix_cons ']' tail))
  · cases h

/-- Elements whose content is not markup. -/
def rawElements : List (List Char) := ["script".toList, "style".toList]

/-- The text behind a name in any mixture of cases. -/
def behindName? : List Char → List Char → Option (List Char)
  | [], rest => some rest
  | small :: name, c :: rest => if Text.isFormOf small c then behindName? name rest else none
  | _ :: _, [] => none

def rawEnd? (name : List Char) : List Char → Option (List Char)
  | '<' :: '/' :: rest =>
    (behindName? name (skipBlanks rest)).bind fun after => behind? '>' (skipBlanks after)
  | _ => none

def isEndNameChar (c : Char) : Bool :=
  c.isAlphanum || c == '-' || c == '.' || c == ':' || c == '_'

/-- A regular end tag behind its slash: the name in lower case and the rest. -/
def endName? (s : List Char) : Option (List Char × List Char) :=
  match skipBlanks s with
  | c :: rest =>
    if Tag.isLetter c then
      (behind? '>' (skipBlanks (rest.dropWhile isEndNameChar))).map fun after =>
        (Text.lower (c :: rest.takeWhile isEndNameChar), after)
    else none
  | [] => none

theorem endName?_behind {s name rest : List Char} (h : endName? s = some (name, rest)) :
    IsBehind rest s := by
  unfold endName? at h
  split at h
  · rename_i c tail heq
    split at h
    · obtain ⟨after, found, hEq⟩ := Option.map_eq_some_iff.1 h
      cases hEq
      have hBlanks : c :: tail <:+ s := heq ▸ skipBlanks_suffix s
      have hTail : skipBlanks (tail.dropWhile isEndNameChar) <:+ s :=
        ((skipBlanks_suffix _).trans (List.dropWhile_suffix _)).trans
          ((List.suffix_cons c tail).trans hBlanks)
      exact (behind?_behind found).trans_suffix hTail
    · cases h
  · cases h

/-- Whether a move leaves an end of a text, and takes something of it unless it ends the pass. -/
def Move.Takes (s : List Char) : Move → Prop
  | .go _ _ rest => IsBehind rest s
  | .halt _ rest => rest <:+ s

/-- Markup that is not complete. The second pass takes it as text up to the next sign. -/
def incomplete (final : Bool) (s : List Char) : Move :=
  if final then
    match s with
    | first :: rest =>
      match find? (behind? '>') rest with
      | some (before, after) => .go [.text (first :: before ++ ['>'])] none after
      | none =>
        match rest.dropWhile (· != '<') with
        | [] => .go [.text [first]] none rest
        | next => .go [.text (first :: rest.takeWhile (· != '<'))] none next
    | [] => .halt [] []
  else .halt [] s

theorem takes_incomplete (final : Bool) (s : List Char) : (incomplete final s).Takes s := by
  unfold incomplete
  split
  · split
    · rename_i first rest
      split
      · rename_i found
        exact ⟨first, rest, rfl, (find?_behind behind?_behind found).suffix⟩
      · split
        · exact .cons first rest
        · exact ⟨first, rest, rfl, List.dropWhile_suffix _⟩
    · exact List.suffix_rfl
  · exact List.suffix_rfl

def noteTo (final : Bool) (s : List Char) (kind : NoteKind) (found : Option (List Char × List Char)) :
    Move :=
  match found with
  | some (content, rest) => .go [.note kind content] none rest
  | none => incomplete final s

theorem takes_noteTo (final : Bool) {s : List Char} (kind : NoteKind)
    {found : Option (List Char × List Char)}
    (h : ∀ {content rest}, found = some (content, rest) → IsBehind rest s) :
    (noteTo final s kind found).Takes s := by
  unfold noteTo
  split
  · exact h rfl
  · exact takes_incomplete final s

/-- An end tag; `rest` stands behind its slash. -/
def endTag (final : Bool) (s rest : List Char) : Move :=
  match find? (behind? '>') rest with
  | none => incomplete final s
  | some (content, after) =>
    match endName? rest with
    | some (name, after) => .go [.finish name] none after
    | none =>
      match rest with
      | [] => incomplete final s
      | c :: _ =>
        if Tag.isLetter c then
          .go [.finish (Text.lower (content.takeWhile Tag.isNameChar))] none after
        else if c = '>' then .go [] none after
        else .go [.note .comment content] none after

theorem takes_endTag (final : Bool) {s rest : List Char} (h : rest <:+ s) :
    (endTag final s rest).Takes s := by
  unfold endTag
  split
  · exact takes_incomplete final s
  · rename_i found
    have hAfter := (find?_behind behind?_behind found).trans_suffix h
    split
    · rename_i name
      exact (endName?_behind name).trans_suffix h
    · split
      · exact takes_incomplete final s
      · split
        · exact hAfter
        · split
          · exact hAfter
          · exact hAfter

def isKeywordChar (c : Char) : Bool := c.isAlphanum || c == '-' || c == '_' || c == '.'

def sectionKeywords : List (List Char) :=
  ["temp", "cdata", "ignore", "include", "rcdata"].map (·.toList)

def conditionKeywords : List (List Char) := ["if", "else", "endif"].map (·.toList)

/-- What a section holds: text if its keyword is written right before a bracket. -/
def sectionNote (content : List Char) : Token :=
  if Text.lowerBasic (content.take 6) = "cdata[".toList then .note .characterData (content.drop 6)
  else .note .declaration content

/-- The text before the section of the document that is quoted in complaints is this long. -/
def nearLength : Nat := 20

/-- A marked section; `body` stands behind its opening bracket. -/
def markedSection (final : Bool) (s body : List Char) : Except Fault Move :=
  match body with
  | [] => .ok (incomplete final s)
  | c :: _ =>
    if Tag.isLetter c then
      let word := body.takeWhile isKeywordChar
      let after := body.dropWhile isKeywordChar
      let keyword := Text.lowerBasic word
      let finish (found : Option (List Char × List Char)) : Except Fault Move :=
        match found with
        | some (content, rest) => .ok (.go [sectionNote content] none rest)
        | none => .ok (incomplete final s)
      if (skipBlanks after).isEmpty then .ok (incomplete final s)
      else if sectionKeywords.contains keyword then finish (find? sectionEnd? body)
      else if conditionKeywords.contains keyword then finish (find? conditionEnd? body)
      else .error (.sectionKeyword (String.ofList (word ++ after.takeWhile isBlank)))
    else .error (.sectionName (String.ofList (s.take nearLength)))

theorem takes_markedSection {final : Bool} {s body : List Char} {m : Move} (h : body <:+ s)
    (ok : markedSection final s body = .ok m) : m.Takes s := by
  unfold markedSection at ok
  split at ok
  · cases ok
    exact takes_incomplete final s
  · split at ok
    · simp only at ok
      split at ok
      · cases ok
        exact takes_incomplete final s
      · split at ok
        · split at ok <;> cases ok
          · rename_i found
            exact (find?_behind sectionEnd?_behind found).trans_suffix h
          · exact takes_incomplete final s
        · split at ok
          · split at ok <;> cases ok
            · rename_i found
              exact (find?_behind conditionEnd?_behind found).trans_suffix h
            · exact takes_incomplete final s
          · cases ok
    · cases ok

/-- Markup that begins with an exclamation mark; `rest` stands behind it. -/
def declaration (final : Bool) (s rest : List Char) : Except Fault Move :=
  match rest with
  | '-' :: '-' :: body => .ok (noteTo final s .comment (find? commentEnd? body))
  | '[' :: body => markedSection final s body
  | _ =>
    let found := find? (behind? '>') rest
    if Text.lowerBasic (rest.take 7) = "doctype".toList then
      .ok (noteTo final s .doctype found)
    else .ok (noteTo final s .comment found)

theorem takes_declaration {final : Bool} {s rest : List Char} {m : Move} (h : rest <:+ s)
    (ok : declaration final s rest = .ok m) : m.Takes s := by
  unfold declaration at ok
  split at ok
  · rename_i body
    cases ok
    have hBody : body <:+ s := ((List.suffix_cons '-' body).trans (List.suffix_cons '-' _)).trans h
    exact takes_noteTo final .comment fun found =>
      (find?_behind commentEnd?_behind found).trans_suffix hBody
  · exact takes_markedSection ((List.suffix_cons '[' _).trans h) ok
  · simp only at ok
    split at ok <;> cases ok
    all_goals
      exact takes_noteTo final _ fun found => (find?_behind behind?_behind found).trans_suffix h

/-- Markup; `rest` stands behind the less-than sign. -/
def markup (final : Bool) (s rest : List Char) : Except Fault Move :=
  match rest with
  | [] => .ok (.halt [] s)
  | '/' :: after => .ok (endTag final s after)
  | '?' :: after => .ok (noteTo final s .instruction (find? (behind? '>') after))
  | '!' :: after => declaration final s after
  | c :: _ =>
    if Tag.isLetter c then
      match Tag.read rest with
      | .error e => .error e
      | .ok (.tag tag after) =>
        .ok (.go [.start tag]
          (if !tag.closed && rawElements.contains tag.name then some tag.name else none) after)
      | .ok (.broken after) => .ok (.go [.text (s.take (s.length - after.length))] none after)
      | .ok .unfinished => .ok (incomplete final s)
    else .ok (.go [.text ['<']] none rest)

theorem takes_markup {final : Bool} {s rest : List Char} {m : Move} (h : IsBehind rest s)
    (ok : markup final s rest = .ok m) : m.Takes s := by
  unfold markup at ok
  split at ok
  · cases ok
    exact List.suffix_rfl
  · cases ok
    exact takes_endTag final ((List.suffix_cons '/' _).trans h.suffix)
  · cases ok
    exact takes_noteTo final .instruction fun found =>
      (find?_behind behind?_behind found).trans_suffix ((List.suffix_cons '?' _).trans h.suffix)
  · exact takes_declaration ((List.suffix_cons '!' _).trans h.suffix) ok
  · split at ok
    · split at ok
      · cases ok
      · rename_i found
        cases ok
        exact h.of_suffix (Tag.read_suffix found)
      · rename_i found
        cases ok
        exact h.of_suffix (Tag.read_suffix found)
      · cases ok
        exact takes_incomplete final s
    · cases ok
      exact h

def ofCode : Text.Code → Token
  | .char c => .text [c]
  | .half index => .half index

/-- The mark of base sixteen, if there is one, and the digits of a numeric reference. -/
def numericParts (body : List Char) : List Char × List Char :=
  match body with
  | c :: more =>
    if c = 'x' || c = 'X' then ([c], more.takeWhile Text.isHexDigit)
    else ([], body.takeWhile Char.isDigit)
  | [] => ([], [])

/-- A numeric reference; `body` stands behind the number sign. -/
def numericReference (s body : List Char) : Except Fault Move :=
  let (mark, run) := numericParts body
  let after := body.drop (mark.length + run.length)
  match after with
  | c :: _ =>
    if run.isEmpty || Text.isHexDigit c then cut
    else match Entity.referenceNumber (mark ++ run) with
      | .error e => .error e
      | .ok n => .ok (.go [ofCode (Entity.textCode n)] none (Entity.afterSemicolon after))
  | [] => cut
where
  /-- A cut reference ends the pass, behind its first two signs if a semicolon is still to come. -/
  cut : Except Fault Move :=
    if s.contains ';' then .ok (.halt [.text ['&', '#']] body) else .ok (.halt [] s)

theorem takes_numericReference {s body : List Char} {m : Move} (h : IsBehind body s)
    (ok : numericReference s body = .ok m) : m.Takes s := by
  have cut {m : Move} (ok : numericReference.cut s body = .ok m) : m.Takes s := by
    unfold numericReference.cut at ok
    split at ok <;> cases ok
    · exact h.suffix
    · exact List.suffix_rfl
  unfold numericReference at ok
  simp only at ok
  split at ok
  · split at ok
    · exact cut ok
    · split at ok
      · cases ok
      · cases ok
        exact h.of_suffix ((Entity.afterSemicolon_suffix _).trans (List.drop_suffix _ body))
  · exact cut ok

def isReferenceChar (c : Char) : Bool := c.isAlphanum || c == '-' || c == '.'

/-- The name of a reference at the front of a text, and the rest behind it. At the end of the text
the name goes up to the last hyphen or point only. -/
def referenceName? (s : List Char) : Option (List Char × List Char) :=
  let run := s.takeWhile isReferenceChar
  match s.dropWhile isReferenceChar with
  | [] =>
    match run.reverse.dropWhile Char.isAlphanum with
    | _ :: name =>
      if name.isEmpty then none
      else some (name.reverse, s.drop name.length)
    | [] => none
  | after => some (run, after)

theorem referenceName?_suffix {s name rest : List Char} (h : referenceName? s = some (name, rest)) :
    rest <:+ s := by
  unfold referenceName? at h
  simp only at h
  split at h
  · split at h
    · split at h <;> cases h
      exact List.drop_suffix _ _
    · cases h
  · cases h
    exact List.dropWhile_suffix _

/-- A reference; `rest` stands behind the ampersand. -/
def reference (final : Bool) (s rest : List Char) : Except Fault Move :=
  match rest with
  | [] => .ok (.halt [] s)
  | '#' :: body => numericReference s body
  | c :: more =>
    if Tag.isLetter c then
      match referenceName? rest with
      | some (name, after) =>
        .ok (.go [.text ((Entity.named? name).getD ('&' :: name))] none
          (Entity.afterSemicolon after))
      | none => if final && more.isEmpty then .ok (.halt [] rest) else .ok (.halt [] s)
    else .ok (.go [.text ['&']] none rest)

theorem takes_reference {final : Bool} {s rest : List Char} {m : Move} (h : IsBehind rest s)
    (ok : reference final s rest = .ok m) : m.Takes s := by
  unfold reference at ok
  split at ok
  · cases ok
    exact List.suffix_rfl
  · exact takes_numericReference (h.of_suffix (List.suffix_cons '#' _)) ok
  · split at ok
    · split at ok
      · rename_i name after found
        cases ok
        exact h.of_suffix ((Entity.afterSemicolon_suffix after).trans (referenceName?_suffix found))
      · split at ok <;> cases ok
        · exact h.suffix
        · exact List.suffix_rfl
    · cases ok
      exact h

def rawStep (name s : List Char) : Move :=
  let starts (t : List Char) : Option (List Char) := (rawEnd? name t).map fun _ => t
  match find? starts s with
  | none => .halt [] s
  | some ([], _) =>
    match endName? (s.drop 2) with
    | some (_, after) => .go [.finish name] none after
    | none =>
      .go [.text (s.takeWhile (· != '>') ++ ['>'])] (some name) ((s.dropWhile (· != '>')).drop 1)
  | some (before, rest) => .go [.text before] (some name) rest

theorem takes_rawStep (name s : List Char) : (rawStep name s).Takes s := by
  unfold rawStep
  simp only
  split
  · exact List.suffix_rfl
  · rename_i found
    split
    · rename_i ended
      exact (endName?_behind ended).trans_suffix (List.drop_suffix 2 s)
    · cases s with
      | nil => cases found
      | cons c rest =>
        refine ⟨c, rest, rfl, ?_⟩
        rw [List.dropWhile_cons]
        split
        · exact (List.drop_suffix 1 _).trans (List.dropWhile_suffix _)
        · exact List.suffix_rfl
  · rename_i before rest nonempty found
    obtain ⟨t, rfl, ht⟩ := eq_append_of_find? found
    obtain ⟨_, _, rfl⟩ := Option.map_eq_some_iff.1 ht
    obtain ⟨c, more, rfl⟩ := List.exists_cons_of_ne_nil nonempty
    exact ⟨c, more ++ t, rfl, List.suffix_append more t⟩

def isPlain (c : Char) : Bool := !(c == '<' || c == '&')

def step (final : Bool) (raw : Option (List Char)) (s : List Char) : Except Fault Move :=
  match raw with
  | some name => .ok (rawStep name s)
  | none =>
    match s with
    | [] => .ok (.halt [] [])
    | '<' :: rest => markup final s rest
    | '&' :: rest => reference final s rest
    | _ => .ok (.go [.text (s.takeWhile isPlain)] none (s.dropWhile isPlain))

theorem takes_step {final : Bool} {raw : Option (List Char)} {s : List Char} {m : Move}
    (ok : step final raw s = .ok m) : m.Takes s := by
  unfold step at ok
  split at ok
  · cases ok
    exact takes_rawStep _ s
  · split at ok
    · cases ok
      exact List.suffix_rfl
    · exact takes_markup (.cons '<' _) ok
    · exact takes_reference (.cons '&' _) ok
    · cases ok
      match s with
      | [] => contradiction
      | c :: rest =>
        have plain : isPlain c = true := by
          simp_all [isPlain]
        refine ⟨c, rest, rfl, ?_⟩
        rw [List.dropWhile_cons_of_pos plain]
        exact List.dropWhile_suffix isPlain

/-- What is left where the second pass ends is text, but for raw content. -/
def leftover (raw : Option (List Char)) (rest : List Char) : List Token :=
  if raw.isNone && !rest.isEmpty then [.text rest] else []

def scan (final : Bool) (raw : Option (List Char)) (s : List Char) : Except Fault (List Token) :=
  if s.isEmpty then .ok []
  else
    match h : step final raw s with
    | .error e => .error e
    | .ok (.go tokens raw rest) =>
      have : rest.length < s.length := IsBehind.length_lt (takes_step h)
      (scan final raw rest).map (tokens ++ ·)
    | .ok (.halt tokens rest) =>
      if final then .ok (tokens ++ leftover raw rest)
      else (scan true raw rest).map (tokens ++ ·)
termination_by (if final then 0 else 1, s.length)
decreasing_by
  · exact Prod.Lex.right _ (by assumption)
  · exact Prod.Lex.left _ _ (by simp_all)

def ofText (s : List Char) : Except Fault (List Token) := scan false none s

end PageCheck.Html.Token
