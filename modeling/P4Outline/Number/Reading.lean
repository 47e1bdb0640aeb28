import P4Outline.Number.Binary64
import P4Outline.Text.Blank

/-!
# Reading numbers

Whole and floating point numbers are read from a text as people write them: white space at the ends,
a sign, digits of any script, and single low lines between digits. A floating point number has a
point or an exponent or neither, or is the name of an infinity or of what is no number.
-/

namespace P4Outline

open P4Outline.Text

/-- White space around a number; the separator controls below the space are none. -/
def isNumberMargin (c : Char) : Bool := isBlank c && !(0x1C ≤ c.toNat && c.toNat ≤ 0x1F)

/-- A text without the white space around a number. -/
def trimNumber (cs : List Char) : List Char :=
  ((cs.dropWhile isNumberMargin).reverse.dropWhile isNumberMargin).reverse

/-- Whether a number is negative, by its sign, and the text behind the sign. -/
def takeSign : List Char → Bool × List Char
  | '-' :: cs => (true, cs)
  | '+' :: cs => (false, cs)
  | cs => (false, cs)

/-- The digits of a text that is made of digits, with single low lines between them or not. -/
def groupedDigits? : List Char → Option (List Nat)
  | [] => none
  | [c] => (digitValue? c).map fun d => [d]
  | c :: '_' :: cs => (digitValue? c).bind fun d => (groupedDigits? cs).map (d :: ·)
  | c :: cs => (digitValue? c).bind fun d => (groupedDigits? cs).map (d :: ·)

/-- The number that a list of digits writes. -/
def ofDigits (digits : List Nat) : Nat := digits.foldl (fun n d => 10 * n + d) 0

/-- Reads a whole number of at most `limit` digits. -/
def readInt? (limit : Nat) (cs : List Char) : Option Int :=
  let (negative, unsigned) := takeSign (trimNumber cs)
  match groupedDigits? unsigned with
  | none => none
  | some digits =>
    if limit < digits.length then none
    else some (if negative then -(ofDigits digits : Int) else ofDigits digits)

/-- The digits of a part of a number that may be missing. -/
def optionalDigits? (cs : List Char) : Option (List Nat) :=
  if cs.isEmpty then some [] else groupedDigits? cs

/-- The exponent behind its letter. -/
def readExponent? (cs : List Char) : Option Int :=
  let (negative, unsigned) := takeSign cs
  (groupedDigits? unsigned).map fun digits => if negative then -(ofDigits digits : Int)
    else ofDigits digits

/-- Reads a floating point number. -/
def readBinary64? (cs : List Char) : Option Binary64 :=
  let (negative, unsigned) := takeSign (trimNumber cs)
  let small := unsigned.map Char.toLower
  if small = "inf".toList ∨ small = "infinity".toList then some (.infinite negative)
  else if small = "nan".toList then some .nan
  else do
    let mantissa := unsigned.takeWhile fun c => c ≠ 'e' && c ≠ 'E'
    let exponent ← match unsigned.dropWhile fun c => c ≠ 'e' && c ≠ 'E' with
      | [] => some 0
      | _ :: cs => readExponent? cs
    let whole ← optionalDigits? (mantissa.takeWhile (· ≠ '.'))
    let part ← optionalDigits? ((mantissa.dropWhile (· ≠ '.')).drop 1)
    if whole.isEmpty && part.isEmpty then none
    else some (.ofDecimal negative (ofDigits (whole ++ part)) (exponent - part.length))

end P4Outline
