import P4Outline.Text.Digit

/-!
# How long a number may be

A decimal number of very many digits is refused rather than read, and rather than written.
-/

namespace P4Outline

open P4Outline.Text

/-- The most digits that a decimal number is read from or written with. -/
def maxDigits : Nat := 4300

/-- What is said of a text that has too many digits to be read as a number. -/
def tooManyDigitsMessage (digits : Nat) : String :=
  s!"Exceeds the limit ({maxDigits} digits) for integer string conversion: " ++
    s!"value has {digits} digits; use sys.set_int_max_str_digits() to increase the limit"

/-- The decimal text of a number. -/
def numeral (n : Int) : String := String.ofList (intText n)

/-- Whether a number has few enough digits to be written. -/
def isWritable (n : Int) : Bool := (natText n.natAbs).length ≤ maxDigits

/-- Why a number is not written. -/
inductive NumeralError where
  /-- It has too many digits. -/
  | tooLong
  deriving DecidableEq, Repr

/-- The wording of an error. -/
def NumeralError.message : NumeralError → String
  | .tooLong =>
    s!"Exceeds the limit ({maxDigits} digits) for integer string conversion; " ++
      "use sys.set_int_max_str_digits() to increase the limit"

end P4Outline
