import P4Outline.Report.Record

/-!
# The console

What a run says it writes to a console, which is given from outside. Most of it is markup, text with
tags in square brackets: `[red]` begins a style and `[/red]` ends it. What comes from the program
that is looked at is written so that no tag starts in it, or is written as plain text.
-/

namespace P4Outline

/-- A console: how a text is written as markup, and what the console shows of what is written to
it. -/
structure Console where
  /-- A text as markup in which no tag starts. -/
  escape : List Char → List Char
  /-- What is shown of markup, unless its tags do not match. -/
  markup : List Char → Except String (List Char)
  /-- What is shown of a plain text. -/
  plain : List Char → List Char
  /-- What is shown of a record. -/
  record : Record → List Char

/-- Markup in a style. -/
def styled (style : String) (markup : List Char) : List Char :=
  ("[" ++ style ++ "]").toList ++ markup ++ ("[/" ++ style ++ "]").toList

end P4Outline
