import P4Outline.Number.Limit
import P4Outline.Number.Reading
import P4Outline.Text.Quoted
import P4Outline.Text.Split

/-!
# Configuration values

A value is null, a truth value, a number, a text, a list, a mapping or of some other kind. A mapping
lists its entries in the order in which their keys first came, and keys may be of any plain kind.
Two keys are the same if they are equal texts, both null, equal as numbers, a truth value counting
as zero or one, or equal values of other kinds.
-/

namespace P4Outline

open P4Outline.Text

/-- A value of a kind that settings have no use for, such as a date, a set or bytes: all that can be
told of it. -/
structure OtherValue where
  /-- Two such values are equal if they have the same identity. -/
  identity : String
  /-- What it is called in a complaint about its kind. -/
  kind : String
  /-- It as a text. -/
  text : String
  /-- It as it is written inside another value. -/
  literal : String
  /-- Whether it counts as something. -/
  isTruthy : Bool
  /-- The whole number that can be read from it. -/
  int? : Option Int
  /-- The floating point number that can be read from it. -/
  float? : Option Binary64
  deriving DecidableEq, Repr, Inhabited

/-- A value of a configuration. -/
inductive Value where
  | null
  | bool (b : Bool)
  | int (n : Int)
  | float (x : Binary64)
  | text (s : String)
  | list (items : List Value)
  | map (entries : List (Value × Value))
  | other (o : OtherValue)
  deriving Repr, Inhabited

namespace Value

/-- The whole number that a value counts as. -/
def wholeNumber? : Value → Option Int
  | .bool b => some (if b then 1 else 0)
  | .int n => some n
  | _ => none

/-- Whether two values are the same as keys. -/
def sameKey : Value → Value → Bool
  | .null, .null => true
  | .text s, .text t => s == t
  | .other o, .other o' => o.identity == o'.identity
  | .float x, .float y => x.equals y || (x == .nan && y == .nan)
  | .float x, v => (v.wholeNumber?.map x.equalsInt).getD false
  | v, .float x => (v.wholeNumber?.map x.equalsInt).getD false
  | v, w => v.wholeNumber?.isSome && v.wholeNumber? == w.wholeNumber?

/-- Whether a value can be a key. -/
def isKey : Value → Bool
  | .list _ | .map _ => false
  | _ => true

/-- The value of a key among entries. -/
def find? (key : Value) : List (Value × Value) → Option Value
  | [] => none
  | (k, v) :: rest => if k.sameKey key then some v else find? key rest

/-- Stores a value under a key: in place of the value it had, else at the end. -/
def store (key value : Value) : List (Value × Value) → List (Value × Value)
  | [] => [(key, value)]
  | (k, v) :: rest => if k.sameKey key then (k, value) :: rest else (k, v) :: store key value rest

/-- The mapping that entries build up, one after the other. -/
def ofEntries (entries : List (Value × Value)) : List (Value × Value) :=
  entries.foldl (fun m e => store e.1 e.2 m) []

/-- Whether a value counts as something: not null, false, zero or empty. -/
def isTruthy : Value → Bool
  | .null => false
  | .bool b => b
  | .int n => n != 0
  | .float x => !x.isZero
  | .text s => !s.isEmpty
  | .list items => !items.isEmpty
  | .map entries => !entries.isEmpty
  | .other o => o.isTruthy

/-- What a value is called in a complaint about its kind. -/
def kindName : Value → String
  | .null => "NoneType"
  | .bool _ => "bool"
  | .int _ => "int"
  | .float _ => "float"
  | .text _ => "str"
  | .list _ => "list"
  | .map _ => "dict"
  | .other o => o.kind

mutual

/-- A value as it is written inside another one: texts between quotes. -/
def literal : Value → List Char
  | .null => "None".toList
  | .bool b => (if b then "True" else "False").toList
  | .int n => intText n
  | .float x => x.text
  | .text s => quoted s.toList
  | .list items => '[' :: literals items ++ [']']
  | .map entries => '{' :: literalEntries entries ++ ['}']
  | .other o => o.literal.toList

/-- Values with a comma and a space between neighbours. -/
def literals : List Value → List Char
  | [] => []
  | [v] => v.literal
  | v :: w :: rest => v.literal ++ ',' :: ' ' :: literals (w :: rest)

/-- Entries with a colon between key and value, and a comma and a space between neighbours. -/
def literalEntries : List (Value × Value) → List Char
  | [] => []
  | [(k, v)] => k.literal ++ ':' :: ' ' :: v.literal
  | (k, v) :: e :: rest =>
    k.literal ++ ':' :: ' ' :: v.literal ++ ',' :: ' ' :: literalEntries (e :: rest)

end

/-- A value as a text: a text as it is, anything else as it is written. -/
def display : Value → List Char
  | .text s => s.toList
  | .other o => o.text.toList
  | v => v.literal

mutual

/-- Whether all whole numbers in a value can be written. -/
def isWritable : Value → Bool
  | .int n => P4Outline.isWritable n
  | .list items => areWritable items
  | .map entries => entriesAreWritable entries
  | _ => true

/-- Whether all whole numbers in values can be written. -/
def areWritable : List Value → Bool
  | [] => true
  | v :: rest => v.isWritable && areWritable rest

/-- Whether all whole numbers in entries can be written. -/
def entriesAreWritable : List (Value × Value) → Bool
  | [] => true
  | (k, v) :: rest => k.isWritable && v.isWritable && entriesAreWritable rest

end

end Value

end P4Outline
