/-!
# Counting braces

`balance` says how many braces a text leaves open; `closing?` finds the brace that closes one opened
before the text.
-/

namespace P4Outline.Source

/-- The number of opening braces less the number of closing ones. -/
def balance (cs : List Char) : Int := (cs.count '{' : Int) - (cs.count '}' : Int)

/-- How many characters lead up to, and include, the brace that closes the innermost of `inner + 1`
open ones, all those inside it having been closed before. -/
def closing? : Nat → List Char → Option Nat
  | _, [] => none
  | inner, c :: cs =>
    if c = '{' then (closing? (inner + 1) cs).map (· + 1)
    else if c = '}' then
      match inner with
      | 0 => some 1
      | inner + 1 => (closing? inner cs).map (· + 1)
    else (closing? inner cs).map (· + 1)

/-- The text of a block whose opening brace stands just before it, up to and including its closing
brace. -/
def block? (cs : List Char) : Option (List Char) := (closing? 0 cs).map fun n => cs.take n

/-- The part of a source from `start` to the brace that closes a block opened just before `start`. A
negative `start` counts from the end of the source; the closing brace is then looked for from the
front. -/
def slice? (source : List Char) (start : Int) : Option (List Char) :=
  match start with
  | .ofNat n => block? (source.drop n)
  | .negSucc n => (block? source).map fun taken => taken.drop (source.length - (n + 1))

end P4Outline.Source
