/-!
# A place in a document

A cursor is the text that is still to be read, with its offset, its line and its column. The classes
of characters that a document is made of are named here as well.
-/

namespace P4Outline.Yaml

/-- Why a document is refused. -/
inductive DocumentError where
  /-- It is not well-formed. -/
  | malformed
  /-- An escape names a code point that there is none of. -/
  | noSuchCodePoint
  /-- A whole number has more digits than can be read. -/
  | tooManyDigits (digits : Nat)
  /-- A whole number with a base has no digits. -/
  | noDigits (base : Nat)
  deriving DecidableEq, Repr

/-- Whether a character ends a line of a document. -/
def isBreak (c : Char) : Bool := c = '\n' || c = '\u0085' || c = '\u2028' || c = '\u2029'

/-- Whether a character parts what stands on its two sides. -/
def isGap (c : Char) : Bool := c = ' ' || c = '\t' || isBreak c

/-- Whether a text begins with a gap, or ends here. -/
def atGap (cs : List Char) : Bool := (cs.head?.map isGap).getD true

/-- Whether a document may hold a character. -/
def isAllowed (c : Char) : Bool :=
  c = '\t' || c = '\n' || c = '\r' || (0x20 ≤ c.toNat && c.toNat ≤ 0x7E) || c.toNat = 0x85 ||
    (0xA0 ≤ c.toNat && c.toNat ≤ 0xFFFD) || 0x10000 ≤ c.toNat

/-- A break as it stands in a folded text. -/
def foldedBreak (c : Char) : Char := if c = '\u0085' then '\n' else c

/-- A place in a document, and the text from there on. -/
structure Cursor where
  rest : List Char
  offset : Nat := 0
  line : Nat := 0
  column : Nat := 0
  deriving DecidableEq, Repr

namespace Cursor

/-- The place behind the next character. A byte order mark takes no column. -/
def next (p : Cursor) : Cursor :=
  match p.rest with
  | [] => p
  | c :: rest =>
    if isBreak c then ⟨rest, p.offset + 1, p.line + 1, 0⟩
    else ⟨rest, p.offset + 1, p.line, if c = '\uFEFF' then p.column else p.column + 1⟩

/-- The place behind the next `n` characters. -/
def skip (p : Cursor) (n : Nat) : Cursor := n.repeat next p

/-- The place behind the characters at the front that a class holds. -/
def skipWhile (p : Cursor) (holds : Char → Bool) : Cursor := p.skip (p.rest.takeWhile holds).length

/-- Whether three characters that set documents apart stand here. -/
def atSeparator (p : Cursor) : Bool :=
  (p.rest.take 3 = ['-', '-', '-'] || p.rest.take 3 = ['.', '.', '.']) && atGap (p.rest.drop 3)

end Cursor

end P4Outline.Yaml
