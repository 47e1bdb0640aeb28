import P4Outline.Text.UnprintablePoints

/-!
# Quoted texts

A text between quotes, on one line and with nothing invisible in it. The quotes are single ones, or
double ones if the text holds single ones and no double ones. Backslashes and the quote itself are
escaped by a backslash, line breaks and tabs by a letter, and what has no visible form by its code
point in two, four or eight hexadecimal digits.
-/

namespace P4Outline.Text

/-- Whether a character has a visible form, or is the plain space. -/
def isPrintable (c : Char) : Bool := !unprintablePoints.holds c.toNat

/-- A hexadecimal digit, letters being small. -/
def hexDigit (n : Nat) : Char := if n < 10 then Char.ofNat (48 + n) else Char.ofNat (87 + n)

/-- The last `width` hexadecimal digits of a number. -/
def hexText : Nat → Nat → List Char
  | 0, _ => []
  | width + 1, n => hexText width (n / 16) ++ [hexDigit (n % 16)]

/-- The escape of a code point. -/
def escapePoint (n : Nat) : List Char :=
  if n < 0x100 then '\\' :: 'x' :: hexText 2 n
  else if n < 0x10000 then '\\' :: 'u' :: hexText 4 n
  else '\\' :: 'U' :: hexText 8 n

/-- A character between quotes, left as it is if `keep` says so and nothing else asks for an
escape. -/
def quoteChar (keep : Char → Bool) (mark c : Char) : List Char :=
  if c = mark || c = '\\' then ['\\', c]
  else if c = '\n' then ['\\', 'n']
  else if c = '\r' then ['\\', 'r']
  else if c = '\t' then ['\\', 't']
  else if keep c then [c]
  else escapePoint c.toNat

/-- The quotes for a text. -/
def quoteMark (cs : List Char) : Char := if '\'' ∈ cs ∧ '"' ∉ cs then '"' else '\''

/-- A text between quotes, with an escape for every character that `keep` turns down. -/
def quotedKeeping (keep : Char → Bool) (cs : List Char) : List Char :=
  let mark := quoteMark cs
  mark :: cs.flatMap (quoteChar keep mark) ++ [mark]

/-- A text between quotes. -/
def quoted (cs : List Char) : List Char := quotedKeeping isPrintable cs

/-- A text between quotes in ASCII alone. -/
def quotedAscii (cs : List Char) : List Char :=
  quotedKeeping (fun c => isPrintable c && c.toNat < 128) cs

end P4Outline.Text
