import P4Outline.Text.Digit

/-!
# Binary floating point

Numbers of the 64-bit binary format: a sign, a whole mantissa below `2 ^ 53` and an exponent of two
not below `-1074`. A mantissa below `2 ^ 52` goes with the least exponent only, so that every number
has one form.

* `ofRatio` rounds a quotient to the nearest such number, a half to the even mantissa.
* `toInt?` drops what is behind the point.
* `text` writes the fewest digits that read back as the same number, and of those the nearest.
-/

namespace P4Outline

open P4Outline.Text

/-- A number of the 64-bit binary format. -/
inductive Binary64 where
  /-- The number `± mantissa * 2 ^ exponent`. -/
  | finite (negative : Bool) (mantissa : Nat) (exponent : Int)
  | infinite (negative : Bool)
  | nan
  deriving DecidableEq, Repr, Inhabited

namespace Binary64

/-- The least exponent. -/
def leastExponent : Int := -1074

/-- The greatest exponent. -/
def greatestExponent : Int := 971

/-- A whole number as the quotient that it is of two, `2 ^ exponent` being one factor. -/
def scaled (num den : Nat) (exponent : Int) : Nat × Nat :=
  if 0 ≤ exponent then (num, den * Nat.pow 2 exponent.toNat)
    else (num * Nat.pow 2 (-exponent).toNat, den)

/-- The whole number nearest to a quotient, a half going to the even one. -/
def roundEven (num den : Nat) : Nat :=
  let q := num / den
  let r := num % den
  if 2 * r < den then q else if den < 2 * r then q + 1 else if q % 2 = 0 then q else q + 1

/-- The exponent with which the mantissa of a positive quotient fills the format. -/
def exponentFor (num den : Nat) : Int :=
  let guess : Int := (Nat.log2 num : Int) - (Nat.log2 den : Int) - 53
  let (n, d) := scaled num den guess
  max leastExponent (if n / d < Nat.pow 2 53 then guess else guess + 1)

/-- The number nearest to a quotient. -/
def ofRatio (negative : Bool) (num den : Nat) : Binary64 :=
  if num = 0 then .finite negative 0 leastExponent
  else
    let exponent := exponentFor num den
    let (n, d) := scaled num den exponent
    let mantissa := roundEven n d
    let (mantissa, exponent) := if mantissa = Nat.pow 2 53 then (Nat.pow 2 52, exponent + 1)
      else (mantissa, exponent)
    if greatestExponent < exponent then .infinite negative else .finite negative mantissa exponent

/-- The number nearest to `± coefficient * 10 ^ exponent`. -/
def ofDecimal (negative : Bool) (coefficient : Nat) (exponent : Int) : Binary64 :=
  let magnitude : Int := (natText coefficient).length + exponent
  if coefficient = 0 ∨ magnitude < -400 then .finite negative 0 leastExponent
  else if 400 < magnitude then .infinite negative
  else if 0 ≤ exponent then ofRatio negative (coefficient * Nat.pow 10 exponent.toNat) 1
  else ofRatio negative coefficient (Nat.pow 10 (-exponent).toNat)

/-- The number nearest to a whole number, if it does not lie beyond the greatest one. -/
def ofInt? (n : Int) : Option Binary64 :=
  match ofRatio (n < 0) n.natAbs 1 with
  | .infinite _ => none
  | x => some x

/-- Whether a number is a zero of either sign. -/
def isZero : Binary64 → Bool
  | .finite _ mantissa _ => mantissa == 0
  | _ => false

/-- The size of a finite number as a quotient. -/
def magnitude (mantissa : Nat) (exponent : Int) : Nat × Nat :=
  if 0 ≤ exponent then (mantissa * Nat.pow 2 exponent.toNat, 1)
    else (mantissa, Nat.pow 2 (-exponent).toNat)

/-- The whole part of a finite number. -/
def toInt? : Binary64 → Option Int
  | .finite negative mantissa exponent =>
    let (num, den) := magnitude mantissa exponent
    some (if negative then -((num / den : Nat) : Int) else (num / den : Nat))
  | _ => none

/-- Whether a number is equal to a whole number. -/
def equalsInt (x : Binary64) (n : Int) : Bool :=
  match x with
  | .finite negative mantissa exponent =>
    let (num, den) := magnitude mantissa exponent
    num == n.natAbs * den && (num == 0 || negative == decide (n < 0))
  | _ => false

/-- Whether two numbers are equal: zeros are, whatever their signs, and nothing is equal to what is
not a number. -/
def equals : Binary64 → Binary64 → Bool
  | .finite s m e, .finite s' m' e' => (m == 0 && m' == 0) || (s == s' && m == m' && e == e')
  | .infinite s, .infinite s' => s == s'
  | _, _ => false

/-! ### Text -/

/-- For a positive quotient, the number of digits before its point; zero or less if zeros follow the
point. -/
def pointFor (num den : Nat) : Int :=
  let guess : Int := (natText num).length - (natText den).length
  let reached := if 0 ≤ guess then Nat.pow 10 guess.toNat * den ≤ num
    else den ≤ num * Nat.pow 10 (-guess).toNat
  if reached then guess + 1 else guess

/-- The whole number of units `10 ^ unit` below or at a quotient, with what is left over as a
quotient of such a unit. -/
def unitsIn (num den : Nat) (unit : Int) : Nat × Nat × Nat :=
  let (n, d) := if 0 ≤ unit then (num, den * Nat.pow 10 unit.toNat)
    else (num * Nat.pow 10 (-unit).toNat, den)
  (n / d, n % d, d)

/-- The coefficient of the number with `digits` digits that reads back as `x` and is nearest to it,
if there is one; `num / den` is the size of `x` and `point` the place of its point. -/
def digitsAt? (x : Binary64) (num den : Nat) (point : Int) (digits : Nat) : Option Nat :=
  let unit := point - digits
  let (below, left, whole) := unitsIn num den unit
  let readsBack (c : Nat) : Bool := ofDecimal false c unit == x
  let upFirst : Bool := whole < 2 * left || (2 * left == whole && below % 2 == 1)
  let (near, far) := if upFirst then (below + 1, below) else (below, below + 1)
  if readsBack near then some near else if readsBack far then some far else none

/-- The coefficient and the place of the point of the shortest decimal that reads back as a positive
finite number. -/
def shortest (mantissa : Nat) (exponent : Int) : Nat × Int :=
  let (num, den) := magnitude mantissa exponent
  let point := pointFor num den
  let found := (List.range 17).findSome? fun n =>
    (digitsAt? (.finite false mantissa exponent) num den point (n + 1)).map fun c => (c, n + 1)
  match found with
  | some (c, digits) => if (natText c).length ≤ digits then (c, point) else (c, point + 1)
  | none => (num / den, point)

/-- The decimal exponents from which on, and below which, a number is written without an
exponent. -/
def positionalFrom : Int := -4

@[inherit_doc positionalFrom]
def positionalBelow : Int := 16

/-- Digits with a point after the first `point` of them, zeros filling up on either side. -/
def positional (digits : List Char) (point : Int) : List Char :=
  if point ≤ 0 then '0' :: '.' :: List.replicate (-point).toNat '0' ++ digits
  else
    let whole := digits.take point.toNat
    let part := digits.drop point.toNat
    whole ++ List.replicate (point.toNat - digits.length) '0' ++
      '.' :: (if part.isEmpty then ['0'] else part)

/-- Digits with a point after the first and an exponent of at least two digits. -/
def exponential (digits : List Char) (exponent : Int) : List Char :=
  let fraction := if digits.length ≤ 1 then [] else '.' :: digits.drop 1
  let size := natText exponent.natAbs
  digits.take 1 ++ fraction ++ 'e' :: (if exponent < 0 then '-' else '+') ::
    List.replicate (2 - size.length) '0' ++ size

/-- The digits of a coefficient without the zeros at its end. -/
def significant (coefficient : Nat) : List Char :=
  ((natText coefficient).reverse.dropWhile (· = '0')).reverse

/-- The text of a number. -/
def text : Binary64 → List Char
  | .nan => "nan".toList
  | .infinite negative => (if negative then ['-'] else []) ++ "inf".toList
  | .finite negative mantissa exponent =>
    let unsigned :=
      if mantissa = 0 then "0.0".toList
      else
        let (coefficient, point) := shortest mantissa exponent
        let digits := significant coefficient
        if positionalFrom ≤ point - 1 ∧ point - 1 < positionalBelow then positional digits point
        else exponential digits (point - 1)
    (if negative then ['-'] else []) ++ unsigned

end Binary64

end P4Outline
