/-!
# Line breaks

`plainBreaks` writes every break of a text as a line feed. `lines` cuts a text at the breaks of any
kind; a break at the very end begins no line.
-/

namespace P4Outline.Text

/-- The text with a line feed for every carriage return, and for every pair of both. -/
def plainBreaks : List Char → List Char
  | [] => []
  | '\r' :: '\n' :: cs => '\n' :: plainBreaks cs
  | c :: cs => (if c = '\r' then '\n' else c) :: plainBreaks cs

/-- Whether a character ends a line: line feed, vertical tab, form feed, carriage return, the file,
group and record separators, next line, and the line and paragraph separators. -/
def isLineEnd (c : Char) : Bool :=
  (0x0A ≤ c.toNat && c.toNat ≤ 0x0D) || (0x1C ≤ c.toNat && c.toNat ≤ 0x1E) || c.toNat = 0x85 ||
    c.toNat = 0x2028 || c.toNat = 0x2029

/-- The lines of a text that goes on here, within a line that began with `begun`, read backwards. -/
def linesAfter (begun : List Char) : List Char → List (List Char)
  | [] => if begun.isEmpty then [] else [begun.reverse]
  | '\r' :: '\n' :: cs => begun.reverse :: linesAfter [] cs
  | c :: cs => if isLineEnd c then begun.reverse :: linesAfter [] cs else linesAfter (c :: begun) cs

/-- The lines of a text, without their ends. -/
def lines (cs : List Char) : List (List Char) := linesAfter [] cs

end P4Outline.Text
