import P4Outline.Config.Value
import P4Outline.Number.Limit
import P4Outline.Yaml.Cursor

/-!
# What a plain scalar means

A plain scalar is null, a truth value, a whole number or a floating point number if it is spelled
like one, and a text otherwise. Low lines among the digits of a number do not count. A whole number
is binary behind `0b`, hexadecimal behind `0x`, octal behind any other zero, and decimal otherwise;
a floating point number has a point, and its exponent has a sign.
-/

namespace P4Outline.Yaml

open P4Outline.Text

/-- The spellings of null. -/
def nullTexts : List String := ["", "~", "null", "Null", "NULL"]

/-- The spellings of true. -/
def trueTexts : List String := ["yes", "Yes", "YES", "true", "True", "TRUE", "on", "On", "ON"]

/-- The spellings of false. -/
def falseTexts : List String := ["no", "No", "NO", "false", "False", "FALSE", "off", "Off", "OFF"]

/-- The spellings that are kept for the merging of mappings, which is not done here. -/
def reservedTexts : List String := ["=", "<<"]

/-- Whether a character is a decimal digit. -/
def isDecimal (c : Char) : Bool := '0' ≤ c && c ≤ '9'

/-- Whether a text is made of digits of a kind and low lines. -/
def isNumeral (isDigit : Char → Bool) (cs : List Char) : Bool :=
  cs.all fun c => c = '_' || isDigit c

/-- The number that the digits of a text write in a base. -/
def numeralValue (base : Nat) (cs : List Char) : Nat :=
  (cs.filterMap hexValue?).foldl (fun n d => base * n + d) 0

/-- A number with a sign. -/
def signed (negative : Bool) (n : Nat) : Int := if negative then -(n : Int) else n

/-- Reads a whole number behind its base, of which at least one character must be left. -/
def baseNumeral? (negative : Bool) (base : Nat) (isDigit : Char → Bool) (cs : List Char) :
    Option (Except DocumentError Value) :=
  if cs.isEmpty || !isNumeral isDigit cs then none
  else if cs.all (· = '_') then some (.error (.noDigits base))
  else some (.ok (.int (signed negative (numeralValue base cs))))

/-- Reads a whole number without its sign. -/
def wholeNumber? (negative : Bool) (cs : List Char) : Option (Except DocumentError Value) :=
  match cs with
  | ['0'] => some (.ok (.int 0))
  | '0' :: 'b' :: digits => baseNumeral? negative 2 (fun c => c = '0' || c = '1') digits
  | '0' :: 'x' :: digits => baseNumeral? negative 16 (fun c => (hexValue? c).isSome) digits
  | '0' :: digits =>
    if isNumeral (fun c => '0' ≤ c && c ≤ '7') digits
      then some (.ok (.int (signed negative (numeralValue 8 digits))))
    else none
  | c :: digits =>
    if isDecimal c && isNumeral isDecimal digits then
      let count := ((c :: digits).filter isDecimal).length
      if maxDigits < count then some (.error (.tooManyDigits count))
      else some (.ok (.int (signed negative (numeralValue 10 (c :: digits)))))
    else none
  | [] => none

/-- Reads an exponent with its letter and its sign; none at all counts as zero. -/
def exponent? (cs : List Char) : Option Int :=
  match cs with
  | [] => some 0
  | letter :: sign :: digits =>
    if (letter = 'e' || letter = 'E') && (sign = '+' || sign = '-') && !digits.isEmpty &&
      digits.all isDecimal then
      some (signed (sign = '-') (numeralValue 10 digits))
    else none
  | _ => none

/-- Reads a floating point number with digits. One that begins with its point has no sign and a
digit behind that. -/
def pointNumber? (withSign negative : Bool) (cs : List Char) : Option Binary64 :=
  let isPart (c : Char) : Bool := isDecimal c || c = '_'
  let whole := cs.takeWhile isPart
  match cs.dropWhile isPart with
  | '.' :: rest =>
    let part := rest.takeWhile isPart
    let opens (ds : List Char) : Bool := (ds.head?.map isDecimal).getD false
    if if whole.isEmpty then !withSign && opens part else opens whole then
      (exponent? (rest.dropWhile isPart)).map fun e =>
        .ofDecimal negative (numeralValue 10 (whole ++ part)) (e - (part.filter isDecimal).length)
    else none
  | _ => none

/-- Reads a floating point number. -/
def float? (cs : List Char) : Option Binary64 :=
  let (negative, unsigned) := takeSign cs
  let withSign := unsigned.length < cs.length
  if unsigned = ".inf".toList ∨ unsigned = ".Inf".toList ∨
    unsigned = ".INF".toList then some (.infinite negative)
  else if !withSign && (cs = ".nan".toList ∨ cs = ".NaN".toList ∨ cs = ".NAN".toList) then some .nan
  else pointNumber? withSign negative unsigned

/-- What a plain scalar means. -/
def plainValue (cs : List Char) : Except DocumentError Value :=
  let text := String.ofList cs
  if nullTexts.contains text then .ok .null
  else if trueTexts.contains text then .ok (.bool true)
  else if falseTexts.contains text then .ok (.bool false)
  else if reservedTexts.contains text then .error .malformed
  else
    let (negative, unsigned) := takeSign cs
    match wholeNumber? negative unsigned with
    | some read => read
    | none =>
      match float? cs with
      | some x => .ok (.float x)
      | none => .ok (.text text)

end P4Outline.Yaml
