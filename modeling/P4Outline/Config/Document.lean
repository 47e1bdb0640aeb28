import P4Outline.Config.Value

/-!
# Documents

Settings are written in documents. A document is read by a reader that is given from outside, from
the bytes of its file on, since it may be refused before all of them are looked at. What it reads as
is a tree: a document that refers to itself has no such value.
-/

namespace P4Outline

/-- Why a document is not read. -/
inductive ReadError where
  /-- It is not well-formed. -/
  | malformed
  /-- Its bytes encode no text. -/
  | undecodable
  /-- The reader fails in another way. -/
  | failed (message : String)
  deriving DecidableEq, Repr

/-- A reader of documents: the value that the content of a file writes. -/
abbrev DocumentReader := List UInt8 → Except ReadError Value

end P4Outline
