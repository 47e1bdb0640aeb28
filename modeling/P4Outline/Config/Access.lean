import P4Outline.Config.Settings
import P4Outline.Text.Case

/-!
# Looking settings up

A setting is looked up by its address, and as a value of a kind. What is not there, and what is
null, gives a default; so does what cannot be read as a value of the kind. Only numbers that are too
large for their kind are an error.
-/

namespace P4Outline

open P4Outline.Text

/-- Why a value cannot be had as a number. -/
inductive NumberError where
  /-- An infinity is no whole number. -/
  | infinite
  /-- A whole number lies beyond the floating point numbers. -/
  | tooLarge
  deriving DecidableEq, Repr

/-- The wording of an error. -/
def NumberError.message : NumberError → String
  | .infinite => "cannot convert float infinity to integer"
  | .tooLarge => "int too large to convert to float"

/-- Why a path cannot be had. -/
inductive PathError where
  /-- Nobody's home directory but one's own is known. -/
  | noHome
  /-- A number in its place is not written. -/
  | numeral (error : NumeralError)
  deriving DecidableEq, Repr

/-- The wording of an error. -/
def PathError.message : PathError → String
  | .noHome => "Could not determine home directory."
  | .numeral error => error.message

namespace Value

/-- A value as a whole number, nothing if it cannot be read as one. -/
def toInt : Value → Except NumberError (Option Int)
  | .bool b => .ok (some (if b then 1 else 0))
  | .int n => .ok (some n)
  | .float (.infinite _) => .error .infinite
  | .float x => .ok x.toInt?
  | .text s => .ok (readInt? maxDigits s.toList)
  | .other o => .ok o.int?
  | _ => .ok none

/-- A value as a floating point number, nothing if it cannot be read as one. -/
def toFloat : Value → Except NumberError (Option Binary64)
  | .bool b => .ok (Binary64.ofInt? (if b then 1 else 0))
  | .int n =>
    match Binary64.ofInt? n with
    | some x => .ok (some x)
    | none => .error .tooLarge
  | .float x => .ok (some x)
  | .text s => .ok (readBinary64? s.toList)
  | .other o => .ok o.float?
  | _ => .ok none

end Value

namespace Settings

/-- The value at an address, if it is there and not null. -/
def find? (s : Settings) (address : String) : Option Value :=
  match Value.at? (keysOfAddress address) (.map s.entries) with
  | some .null => none
  | found => found

/-- The value at an address. -/
def get (s : Settings) (address : String) (default : Value) : Value :=
  (s.find? address).getD default

/-- The texts that count as true. -/
def trueTexts : List String := ["1", "true", "yes", "on"]

/-- Whether a value is switched on: a text if it is one of those that count as true, anything else
if it is something. -/
def isOn : Value → Bool
  | .text s => trueTexts.contains (String.ofList (lower (trim s.toList)))
  | v => v.isTruthy

/-- The truth value at an address. -/
def getBool (s : Settings) (address : String) (default : Value) : Value :=
  match s.find? address with
  | none => default
  | some v => .bool (isOn v)

/-- Whether the setting at an address is switched on. -/
def isSet (s : Settings) (address : String) (default : Bool) : Bool :=
  ((s.find? address).map isOn).getD default

/-- The whole number at an address. -/
def getInt (s : Settings) (address : String) (default : Value) : Except NumberError Value := do
  match ← (s.get address default).toInt with
  | some n => return .int n
  | none => return default

/-- The floating point number at an address. -/
def getFloat (s : Settings) (address : String) (default : Value) : Except NumberError Value := do
  match ← (s.get address default).toFloat with
  | some x => return .float x
  | none => return default

/-- The text of the absolute path that a value means, if it counts as something. -/
def pathOf (site : Site) (v : Value) : Except PathError (Option String) :=
  if !v.isTruthy then .ok none
  else if !v.isWritable then .error (.numeral .tooLong)
  else
    match (Path.ofText (String.ofList v.display)).expandHome? site.home with
    | some p => .ok (some (p.resolve site.workDir).text)
    | none => .error .noHome

/-- The path at an address. What does not count as something gives way to the default. -/
def getPath (s : Settings) (site : Site) (address : String) (default : Value) :
    Except PathError (Option String) :=
  let v := (s.find? address).getD .null
  pathOf site (if v.isTruthy then v else default)

end Settings

end P4Outline
