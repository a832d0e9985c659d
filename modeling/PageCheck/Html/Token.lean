import PageCheck.Text.Code

/-!
# Tokens of a page

A page is a sequence of texts, tags and notes. Texts that follow each other belong together; what
they mean is settled when the tree is built.
-/

namespace PageCheck.Html

/-- The markup that is neither a tag nor text. -/
inductive NoteKind where
  | comment
  | doctype
  | instruction
  | declaration
  /-- A section whose content is text although it stands between marks. -/
  | characterData
deriving DecidableEq, Repr

/-- A start tag. Names are in lower case and values have their references replaced. -/
structure Tag where
  name : List Char
  attributes : List (List Char × List Char)
  /-- Whether the tag ends itself. -/
  closed : Bool
deriving DecidableEq, Repr

inductive Token where
  | text (content : List Char)
  /-- A half that a reference stands for by its number. -/
  | half (index : Fin Text.halfCount)
  | start (tag : Tag)
  | finish (name : List Char)
  | note (kind : NoteKind) (content : List Char)
deriving DecidableEq, Repr

end PageCheck.Html
