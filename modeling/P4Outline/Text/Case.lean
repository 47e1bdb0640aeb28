import P4Outline.Text.CasePoints

/-!
# Small letters

`lower` writes a text in small letters. All but two capitals have one small form each. The capital I
with a dot becomes an i and a combining dot, and the capital sigma has two small forms: the one for
the end of a word is chosen where a cased letter stands before it and none after it, marks between
them not counting.
-/

namespace P4Outline.Text

/-- The small form of a single code point, by the table alone. -/
def lowerPoint (n : Nat) : List CaseRun → Nat
  | [] => n
  | r :: rest =>
    if n < r.first then n
    else if n ≤ r.last && (n - r.first) % r.step == 0 then (n + r.shift).toNat
    else lowerPoint n rest

/-- Whether the text goes on with a cased letter, marks that do not part a word left aside. -/
def goesOnCased (cs : List Char) : Bool :=
  match cs.dropWhile (fun c => caseIgnorablePoints.holds c.toNat) with
  | c :: _ => casedPoints.holds c.toNat
  | [] => false

/-- The small form of a character that stands between `before` (nearest first) and `after`. -/
def lowerChar (before : List Char) (c : Char) (after : List Char) : List Char :=
  if c = 'Σ' then
    if goesOnCased before && !goesOnCased after then ['ς'] else ['σ']
  else if c = 'İ' then ['i', '\u0307']
  else [Char.ofNat (lowerPoint c.toNat caseRuns)]

/-- The small form of a text whose earlier part, read backwards, is `before`. -/
def lowerAfter (before : List Char) : List Char → List Char
  | [] => []
  | c :: cs => lowerChar before c cs ++ lowerAfter (c :: before) cs

/-- The text in small letters. -/
def lower (cs : List Char) : List Char := lowerAfter [] cs

end P4Outline.Text
